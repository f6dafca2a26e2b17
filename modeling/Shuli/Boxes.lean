import Mathlib.Data.List.Forall2
import Mathlib.Data.Finset.Max

/-!
Boxes of natural numbers, one closed range for each coordinate. A box lies in a union of boxes when its
corners do: a corner takes in each coordinate the lower end of the box or the number after the upper end
of one of the others.
-/

namespace Shuli

def InRange (range : Nat × Nat) (value : Nat) : Prop := range.1 ≤ value ∧ value ≤ range.2

instance (range : Nat × Nat) (value : Nat) : Decidable (InRange range value) :=
  inferInstanceAs (Decidable (_ ∧ _))

def InBox (box : List (Nat × Nat)) (point : List Nat) : Prop := List.Forall₂ InRange box point

def InBox.decidable : (box : List (Nat × Nat)) → (point : List Nat) → Decidable (InBox box point)
  | [], [] => isTrue .nil
  | [], _ :: _ => isFalse nofun
  | _ :: _, [] => isFalse nofun
  | range :: box, value :: point =>
    have := InBox.decidable box point
    decidable_of_iff (InRange range value ∧ InBox box point) List.forall₂_cons.symm

instance (box : List (Nat × Nat)) (point : List Nat) : Decidable (InBox box point) :=
  InBox.decidable box point

def Covered (cover : List (List (Nat × Nat))) (point : List Nat) : Prop := ∃ box ∈ cover, InBox box point

instance (cover : List (List (Nat × Nat))) (point : List Nat) : Decidable (Covered cover point) :=
  inferInstanceAs (Decidable (∃ box ∈ cover, _))

def breaks (range : Nat × Nat) (others : List (Nat × Nat)) : List Nat :=
  (range.1 :: others.map fun other => other.2 + 1).filter fun value => InRange range value

/-- The points of a box at which a covering can fail. -/
def corners : List (Nat × Nat) → List (List (Nat × Nat)) → List (List Nat)
  | [], _ => [[]]
  | range :: box, cover =>
    (breaks range (cover.filterMap List.head?)).flatMap fun value =>
      (corners box (cover.map List.tail)).map fun corner => value :: corner

variable {box : List (Nat × Nat)} {cover : List (List (Nat × Nat))}

variable {point : List Nat}

theorem mem_corners_cons {range : Nat × Nat} {value : Nat} :
    value :: point ∈ corners (range :: box) cover ↔
      value ∈ breaks range (cover.filterMap List.head?) ∧ point ∈ corners box (cover.map List.tail) := by
  simp [corners]

theorem inBox_of_mem_corners (mem : point ∈ corners box cover) : InBox box point := by
  induction box generalizing cover point with
  | nil =>
    obtain rfl := List.mem_singleton.mp mem
    exact .nil
  | cons range box ih =>
    cases point with
    | nil => simp [corners] at mem
    | cons value point =>
      obtain ⟨found, rest⟩ := mem_corners_cons.mp mem
      exact .cons (of_decide_eq_true (List.mem_filter.mp found).2) (ih rest)

/-- The greatest break below a number of the range. -/
theorem exists_break {range : Nat × Nat} {value : Nat} (inside : InRange range value) (others : List (Nat × Nat)) :
    ∃ least ∈ breaks range others, least ≤ value ∧
      ∀ other ∈ others, InRange other least → InRange other value := by
  have first : range.1 ∈ breaks range others :=
    List.mem_filter.mpr ⟨List.mem_cons_self, decide_eq_true ⟨Nat.le_refl _, inside.1.trans inside.2⟩⟩
  obtain ⟨least, mem, greatest⟩ := ((breaks range others).toFinset.filter (· ≤ value)).exists_max_image id
    ⟨range.1, by simp [first, inside.1]⟩
  simp only [Finset.mem_filter, List.mem_toFinset, id] at mem greatest
  refine ⟨least, mem.1, mem.2, fun other found within => ⟨within.1.trans mem.2, ?_⟩⟩
  -- Beyond the end of the other range there would be a break between the two numbers.
  by_contra beyond
  have lower : range.1 ≤ least := (of_decide_eq_true (List.mem_filter.mp mem.1).2 : InRange range least).1
  have next : other.2 + 1 ∈ breaks range others := by
    refine List.mem_filter.mpr ⟨List.mem_cons_of_mem _ (List.mem_map.mpr ⟨other, found, rfl⟩), ?_⟩
    have := within.2
    have := inside.2
    exact decide_eq_true ⟨by omega, by omega⟩
  have := greatest (other.2 + 1) ⟨next, by omega⟩
  have := within.2
  omega

theorem exists_corner (inside : InBox box point) (cover : List (List (Nat × Nat))) :
    ∃ corner ∈ corners box cover, ∀ other ∈ cover, InBox other corner → InBox other point := by
  induction inside generalizing cover with
  | nil => exact ⟨[], List.mem_singleton_self _, fun _ _ within => within⟩
  | @cons range value box point within _ ih =>
    obtain ⟨least, isBreak, _, ranges⟩ := exists_break within (cover.filterMap List.head?)
    obtain ⟨corner, isCorner, boxes⟩ := ih (cover.map List.tail)
    refine ⟨least :: corner, mem_corners_cons.mpr ⟨isBreak, isCorner⟩, fun other found inside => ?_⟩
    cases inside with
    | @cons first _ rest _ firstInside restInside =>
      refine .cons (ranges first ?_ firstInside) (boxes rest ?_ restInside)
      · exact List.mem_filterMap.mpr ⟨_, found, rfl⟩
      · exact List.mem_map.mpr ⟨_, found, rfl⟩

theorem covered_iff_corners :
    (∀ point, InBox box point → Covered cover point) ↔ ∀ corner ∈ corners box cover, Covered cover corner := by
  constructor
  · exact fun covers corner mem => covers corner (inBox_of_mem_corners mem)
  · intro covers point inside
    obtain ⟨corner, mem, boxes⟩ := exists_corner inside cover
    obtain ⟨other, found, within⟩ := covers corner mem
    exact ⟨other, found, boxes other found within⟩

end Shuli
