import Mathlib.Data.List.Basic

/-!
Runs of a deterministic system over a list of inputs, and the induction that every safety
result of the development goes through: an invariant of the initial state that each
admitted step keeps holds after every admitted run.
-/

namespace Shuli

variable {σ ι : Type}

def runInputs (step : σ → ι → σ) (s : σ) (inputs : List ι) : σ := inputs.foldl step s

@[simp] theorem runInputs_nil (step : σ → ι → σ) (s : σ) : runInputs step s [] = s := rfl

@[simp] theorem runInputs_cons (step : σ → ι → σ) (s : σ) (input : ι) (inputs : List ι) :
    runInputs step s (input :: inputs) = runInputs step (step s input) inputs := rfl

theorem runInputs_append (step : σ → ι → σ) (s : σ) (first second : List ι) :
    runInputs step s (first ++ second) = runInputs step (runInputs step s first) second := by
  simp [runInputs]

/-- Every input of the run meets `admits` in the state that it finds. -/
def Admitted (step : σ → ι → σ) (admits : σ → ι → Prop) : σ → List ι → Prop
  | _, [] => True
  | s, input :: inputs => admits s input ∧ Admitted step admits (step s input) inputs

instance Admitted.decidable (step : σ → ι → σ) (admits : σ → ι → Prop)
    [∀ s input, Decidable (admits s input)] :
    (s : σ) → (inputs : List ι) → Decidable (Admitted step admits s inputs)
  | _, [] => isTrue trivial
  | s, input :: inputs =>
    have := Admitted.decidable step admits (step s input) inputs
    inferInstanceAs (Decidable (_ ∧ _))

theorem Admitted.take {step : σ → ι → σ} {admits : σ → ι → Prop} {s : σ} {inputs : List ι}
    (admitted : Admitted step admits s inputs) (n : Nat) :
    Admitted step admits s (inputs.take n) := by
  induction inputs generalizing s n with
  | nil => simpa using admitted
  | cons input inputs ih =>
    cases n with
    | zero => trivial
    | succ n => exact ⟨admitted.1, ih admitted.2 n⟩

theorem Admitted.append {step : σ → ι → σ} {admits : σ → ι → Prop} {s : σ} {first second : List ι} :
    Admitted step admits s (first ++ second) ↔
      Admitted step admits s first ∧ Admitted step admits (runInputs step s first) second := by
  induction first generalizing s with
  | nil => simp [Admitted]
  | cons input first ih => simp only [List.cons_append, Admitted, ih, runInputs_cons, and_assoc]

theorem Admitted.and {step : σ → ι → σ} {first second : σ → ι → Prop} {s : σ} {inputs : List ι}
    (one : Admitted step first s inputs) (two : Admitted step second s inputs) :
    Admitted step (fun s input => first s input ∧ second s input) s inputs := by
  induction inputs generalizing s with
  | nil => trivial
  | cons input inputs ih => exact ⟨⟨one.1, two.1⟩, ih one.2 two.2⟩

theorem Admitted.of_forall {step : σ → ι → σ} {admits : ι → Prop} {s : σ} {inputs : List ι}
    (all : ∀ input ∈ inputs, admits input) : Admitted step (fun _ => admits) s inputs := by
  induction inputs generalizing s with
  | nil => trivial
  | cons input inputs ih =>
    rw [List.forall_mem_cons] at all
    exact ⟨all.1, ih all.2⟩

theorem Admitted.at_input {step : σ → ι → σ} {admits : σ → ι → Prop} {s : σ} {before rest : List ι}
    {input : ι} (admitted : Admitted step admits s (before ++ input :: rest)) :
    admits (runInputs step s before) input := by
  induction before generalizing s with
  | nil => exact admitted.1
  | cons first before ih => exact ih admitted.2

theorem run_invariant {step : σ → ι → σ} {admits : σ → ι → Prop} {I : σ → Prop}
    (keep : ∀ s input, I s → admits s input → I (step s input)) {s : σ} (start : I s)
    {inputs : List ι} (admitted : Admitted step admits s inputs) :
    I (runInputs step s inputs) := by
  induction inputs generalizing s with
  | nil => exact start
  | cons input inputs ih => exact ih (keep s input start admitted.1) admitted.2

theorem run_establishes {step : σ → ι → σ} {admits : σ → ι → Prop} {I P : σ → Prop} {input : ι}
    (keep : ∀ s input, I s → admits s input → I (step s input))
    (stable : ∀ s input, I s → admits s input → P s → P (step s input))
    (brings : ∀ s, I s → admits s input → P (step s input)) {s : σ} (start : I s)
    {before later : List ι} (admitted : Admitted step admits s (before ++ input :: later)) :
    P (runInputs step s (before ++ input :: later)) := by
  obtain ⟨early, here, late⟩ := Admitted.append.mp admitted
  have reached := run_invariant keep start early
  rw [runInputs_append]
  refine (run_invariant (I := fun s => I s ∧ P s) ?_ ⟨keep _ _ reached here, brings _ reached here⟩ late).2
  exact fun s input both admits => ⟨keep s input both.1 admits, stable s input both.1 admits both.2⟩

theorem run_history {step : σ → ι → σ} {admits : σ → ι → Prop} {I : List ι → σ → Prop}
    (keep : ∀ past s input, I past s → admits s input → I (past ++ [input]) (step s input)) {s : σ}
    (past : List ι) (start : I past s) {inputs : List ι} (admitted : Admitted step admits s inputs) :
    I (past ++ inputs) (runInputs step s inputs) := by
  induction inputs generalizing s past with
  | nil => simpa using start
  | cons input inputs ih =>
    have rest := ih _ (keep past s input start admitted.1) admitted.2
    rwa [List.append_assoc] at rest

def Reachable (step : σ → ι → σ) (start s : σ) : Prop := ∃ inputs, s = runInputs step start inputs

theorem Reachable.invariant {step : σ → ι → σ} {I : σ → Prop} {start s : σ} (reached : Reachable step start s)
    (keep : ∀ s input, I s → I (step s input)) (initial : I start) : I s := by
  obtain ⟨inputs, rfl⟩ := reached
  induction inputs generalizing start with
  | nil => exact initial
  | cons input inputs ih => exact ih (keep start input initial)

theorem Reachable.refl (step : σ → ι → σ) (start : σ) : Reachable step start start := ⟨[], rfl⟩

theorem Reachable.step {step : σ → ι → σ} {start s : σ} (reached : Reachable step start s)
    (input : ι) : Reachable step start (step s input) := by
  obtain ⟨inputs, rfl⟩ := reached
  exact ⟨inputs ++ [input], by rw [runInputs_append]; rfl⟩

end Shuli
