import Mathlib.Data.List.Basic

/-!
Tables kept as lists: an entry is the first element that passes a test, and is changed in place.
-/

namespace Shuli

variable {α : Type} {test : α → Bool} {f : α → α} {list : List α} {a : α}

def updateFirst (test : α → Bool) (f : α → α) : List α → List α
  | [] => []
  | a :: rest => if test a then f a :: rest else a :: updateFirst test f rest

/-- Each entry of the changed table is an old one, or the entry found with its change. -/
theorem mem_updateFirst (mem : a ∈ updateFirst test f list) :
    a ∈ list ∨ ∃ b, list.find? test = some b ∧ a = f b := by
  induction list with
  | nil => exact .inl mem
  | cons b rest ih =>
    rw [updateFirst] at mem
    by_cases passed : test b
    · rw [if_pos passed] at mem
      rcases List.mem_cons.mp mem with rfl | tail
      · exact .inr ⟨b, List.find?_cons_of_pos passed, rfl⟩
      · exact .inl (List.mem_cons_of_mem b tail)
    · rw [if_neg passed] at mem
      rcases List.mem_cons.mp mem with rfl | tail
      · exact .inl List.mem_cons_self
      · rcases ih tail with kept | ⟨c, found, changed⟩
        · exact .inl (List.mem_cons_of_mem b kept)
        · exact .inr ⟨c, by rw [List.find?_cons_of_neg passed, found], changed⟩

/-- Each entry stays in the table, unless it is the one found; that one is there with its change. -/
theorem updateFirst_mem (mem : a ∈ list) :
    a ∈ updateFirst test f list ∨ list.find? test = some a ∧ f a ∈ updateFirst test f list := by
  induction list with
  | nil => exact .inl mem
  | cons b rest ih =>
    rw [updateFirst]
    by_cases passed : test b
    · rw [if_pos passed]
      rcases List.mem_cons.mp mem with rfl | tail
      · exact .inr ⟨List.find?_cons_of_pos passed, List.mem_cons_self⟩
      · exact .inl (List.mem_cons_of_mem _ tail)
    · rw [if_neg passed]
      rcases List.mem_cons.mp mem with rfl | tail
      · exact .inl List.mem_cons_self
      · rcases ih tail with kept | ⟨found, changed⟩
        · exact .inl (List.mem_cons_of_mem b kept)
        · exact .inr ⟨by rw [List.find?_cons_of_neg passed, found], List.mem_cons_of_mem b changed⟩

theorem find?_updateFirst (keeps : ∀ a, test a → test (f a)) :
    (updateFirst test f list).find? test = (list.find? test).map f := by
  induction list with
  | nil => rfl
  | cons b rest ih =>
    rw [updateFirst]
    by_cases passed : test b
    · rw [if_pos passed, List.find?_cons_of_pos (keeps b passed), List.find?_cons_of_pos passed]
      rfl
    · rw [if_neg passed, List.find?_cons_of_neg passed, List.find?_cons_of_neg passed, ih]

theorem find?_updateFirst_other {other : α → Bool} (apart : ∀ a, test a → other a = false ∧ other (f a) = false) :
    (updateFirst test f list).find? other = list.find? other := by
  induction list with
  | nil => rfl
  | cons b rest ih =>
    rw [updateFirst]
    by_cases passed : test b
    · obtain ⟨before, after⟩ := apart b passed
      rw [if_pos passed, List.find?_cons, List.find?_cons, before, after]
    · rw [if_neg passed, List.find?_cons, List.find?_cons, ih]

theorem map_updateFirst {β : Type} {key : α → β} (keeps : ∀ a, key (f a) = key a) :
    (updateFirst test f list).map key = list.map key := by
  induction list with
  | nil => rfl
  | cons b rest ih =>
    rw [updateFirst]
    split
    · rw [List.map_cons, List.map_cons, keeps]
    · rw [List.map_cons, List.map_cons, ih]

theorem updateFirst_append {b : α} (absent : ∀ a ∈ list, test a = false) (passed : test b) :
    updateFirst test f (list ++ [b]) = list ++ [f b] := by
  induction list with
  | nil => exact if_pos passed
  | cons a rest ih =>
    rw [List.cons_append, updateFirst, absent a List.mem_cons_self,
      ih fun c tail => absent c (List.mem_cons_of_mem a tail)]
    rfl

theorem updateFirst_updateFirst {g : α → α} (keeps : ∀ a, test a → test (f a)) :
    updateFirst test g (updateFirst test f list) = updateFirst test (fun a => g (f a)) list := by
  induction list with
  | nil => rfl
  | cons a rest ih =>
    rw [updateFirst, updateFirst]
    by_cases passed : test a
    · rw [if_pos passed, if_pos passed, updateFirst, if_pos (keeps a passed)]
    · rw [if_neg passed, if_neg passed, updateFirst, if_neg passed, ih]

/-- In a table without double keys a search finds every entry. -/
theorem find?_eq_some_iff_of_nodup {β : Type} [BEq β] [LawfulBEq β] {key : α → β} {k : β}
    (distinct : (list.map key).Nodup) :
    list.find? (fun a => key a == k) = some a ↔ a ∈ list ∧ key a = k := by
  constructor
  · intro found
    have passed := List.find?_some (p := fun a => key a == k) found
    exact ⟨List.mem_of_find?_eq_some found, eq_of_beq passed⟩
  · rintro ⟨mem, rfl⟩
    induction list with
    | nil => cases mem
    | cons b rest ih =>
      rw [List.map_cons, List.nodup_cons] at distinct
      rcases List.mem_cons.mp mem with rfl | tail
      · exact List.find?_cons_of_pos (beq_self_eq_true _)
      · have other : key b ≠ key a := fun same =>
          distinct.1 (List.mem_map.mpr ⟨a, tail, same.symm⟩)
        rw [List.find?_cons, beq_eq_false_iff_ne.mpr other]
        exact ih distinct.2 tail

/-- In a table without double keys an entry that is taken out leaves none with its key. -/
theorem ne_of_mem_eraseP {β : Type} [BEq β] [LawfulBEq β] {key : α → β} {k : β}
    (distinct : (list.map key).Nodup) (mem : a ∈ list.eraseP fun a => key a == k) : key a ≠ k := by
  induction list with
  | nil => cases mem
  | cons b rest ih =>
    rw [List.map_cons, List.nodup_cons] at distinct
    rw [List.eraseP_cons] at mem
    by_cases same : key b == k
    · rw [same] at mem
      rintro rfl
      exact distinct.1 (eq_of_beq same ▸ List.mem_map_of_mem mem)
    · rw [Bool.eq_false_iff.mpr same] at mem
      rcases List.mem_cons.mp mem with rfl | tail
      · exact fun equal => same (beq_iff_eq.mpr equal)
      · exact ih distinct.2 tail

theorem getElem?_append_one {n : Nat} {b : α} (found : (list ++ [b])[n]? = some a) :
    n < list.length ∧ list[n]? = some a ∨ n = list.length ∧ a = b := by
  by_cases old : n < list.length
  · rw [List.getElem?_append_left old] at found
    exact .inl ⟨old, found⟩
  · rw [List.getElem?_append_right (Nat.le_of_not_lt old)] at found
    rcases gap : n - list.length with _ | rest
    · rw [gap] at found
      exact .inr ⟨by omega, (Option.some.inj found).symm⟩
    · rw [gap] at found
      cases found

end Shuli
