import Mathlib.Data.List.Basic

/-!
Tables of rows with a key. A row that is put into a table takes the place of the one with its key, so a
table is the set of what was put only as long as rows with one key are equal.
-/

namespace Shuli

variable {α κ : Type} [DecidableEq κ]

def put (key : α → κ) (rows : List α) (row : α) : List α :=
  if rows.any fun other => key other == key row then
    rows.map fun other => if key other = key row then row else other
  else rows ++ [row]

/-- Rows with one key are equal. -/
def Agree (key : α → κ) (first second : List α) : Prop :=
  ∀ one ∈ first, ∀ other ∈ second, key one = key other → one = other

instance Agree.decidable [DecidableEq α] (key : α → κ) (first second : List α) :
    Decidable (Agree key first second) :=
  inferInstanceAs (Decidable (∀ one ∈ first, ∀ other ∈ second, key one = key other → one = other))

theorem mem_put {key : α → κ} {rows : List α} {row : α}
    (agree : ∀ other ∈ rows, key other = key row → other = row) (other : α) :
    other ∈ put key rows row ↔ other ∈ rows ∨ other = row := by
  unfold put
  split
  · rename_i present
    obtain ⟨old, mem, same⟩ := List.any_eq_true.mp present
    have there : row ∈ rows := agree old mem (eq_of_beq same) ▸ mem
    -- Every replaced row was the new one already.
    have unchanged : (rows.map fun other => if key other = key row then row else other) = rows := by
      conv_rhs => rw [← List.map_id rows]
      refine List.map_congr_left fun other mem => ?_
      split
      · rename_i same
        exact (agree other mem same).symm
      · rfl
    rw [unchanged]
    exact ⟨.inl, fun either => either.elim id (· ▸ there)⟩
  · simp

theorem mem_foldl_put {key : α → κ} {rows added : List α} (inside : Agree key added added)
    (agree : Agree key rows added) (other : α) :
    other ∈ added.foldl (put key) rows ↔ other ∈ rows ∨ other ∈ added := by
  induction added generalizing rows with
  | nil => simp
  | cons row added ih =>
    have placed := mem_put fun other mem => agree other mem row List.mem_cons_self
    have later : Agree key (put key rows row) added := by
      intro one first other second
      rcases (placed one).mp first with old | rfl
      · exact agree one old other (List.mem_cons_of_mem _ second)
      · exact inside one List.mem_cons_self other (List.mem_cons_of_mem _ second)
    have rest : Agree key added added := fun one first other second =>
      inside one (List.mem_cons_of_mem _ first) other (List.mem_cons_of_mem _ second)
    rw [List.foldl_cons, ih rest later, placed, List.mem_cons, or_assoc]

end Shuli
