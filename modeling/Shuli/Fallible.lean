import Mathlib.Logic.Basic

/-!
Computations that read and change a state and may fail. A failing computation keeps the
changes that it made before it failed, as a method over `&mut self` returning a `Result`
does. `exec` runs one; its equations are the symbolic execution rules of the handlers.
-/

namespace Shuli

/-- A computation over the state `σ` that may stop with an error `ε`. -/
abbrev Fallible (σ ε : Type) := ExceptT ε (StateM σ)

namespace Fallible

variable {σ ε α β : Type}

def exec (x : Fallible σ ε α) (s : σ) : Except ε α × σ := (ExceptT.run x).run s

def after (x : Fallible σ ε α) (s : σ) : σ := (exec x s).2

@[simp] theorem exec_pure (a : α) (s : σ) : exec (pure a : Fallible σ ε α) s = (.ok a, s) := rfl

@[simp] theorem exec_throw (e : ε) (s : σ) : exec (throw e : Fallible σ ε α) s = (.error e, s) := rfl

@[simp] theorem exec_get (s : σ) : exec (get : Fallible σ ε σ) s = (.ok s, s) := rfl

@[simp] theorem exec_modify (f : σ → σ) (s : σ) :
    exec (modify f : Fallible σ ε PUnit) s = (.ok (), f s) := rfl

@[simp] theorem exec_liftM (x : Except ε α) (s : σ) :
    exec (liftM x : Fallible σ ε α) s = (x, s) := rfl

theorem exec_bind (x : Fallible σ ε α) (f : α → Fallible σ ε β) (s : σ) :
    exec (x >>= f) s = match exec x s with
      | (.ok a, t) => exec (f a) t
      | (.error e, t) => (.error e, t) := by
  change (match (exec x s).1 with
    | .ok a => ExceptT.run (f a)
    | .error e => pure (.error e) : StateM σ (Except ε β)) (exec x s).2 = match exec x s with
      | (.ok a, t) => exec (f a) t
      | (.error e, t) => (.error e, t)
  rcases exec x s with ⟨_ | _, _⟩ <;> rfl

variable {x : Fallible σ ε α} {f : α → Fallible σ ε β}

theorem exec_bind_ok {s t : σ} {a : α}
    (first : exec x s = (.ok a, t)) : exec (x >>= f) s = exec (f a) t := by
  rw [exec_bind, first]

theorem exec_tryCatch (x : Fallible σ ε α) (handler : ε → Fallible σ ε α) (s : σ) :
    exec (tryCatch x handler) s = match exec x s with
      | (.ok a, t) => (.ok a, t)
      | (.error e, t) => exec (handler e) t := by
  rcases outcome : exec x s with ⟨e | a, t⟩
  · exact congrArg (fun r : Except ε α × σ => (match r.1 with
      | .ok a => pure (.ok a)
      | .error e => handler e : StateM σ (Except ε α)) r.2) outcome
  · exact congrArg (fun r : Except ε α × σ => (match r.1 with
      | .ok a => pure (.ok a)
      | .error e => handler e : StateM σ (Except ε α)) r.2) outcome

theorem exec_get_bind (f : σ → Fallible σ ε β) (s : σ) :
    exec ((get : Fallible σ ε σ) >>= f) s = exec (f s) s := exec_bind_ok rfl

theorem exec_modify_bind (g : σ → σ) (f : PUnit → Fallible σ ε β) (s : σ) :
    exec ((modify g : Fallible σ ε PUnit) >>= f) s = exec (f ()) (g s) := exec_bind_ok rfl

theorem exec_liftM_bind (x : Except ε α) (f : α → Fallible σ ε β) (s : σ) :
    exec ((liftM x : Fallible σ ε α) >>= f) s = match x with
      | .ok a => exec (f a) s
      | .error e => (.error e, s) := by
  cases x <;> rfl

theorem exec_bind_eq_ok {s u : σ} {b : β} :
    exec (x >>= f) s = (.ok b, u) ↔ ∃ a t, exec x s = (.ok a, t) ∧ exec (f a) t = (.ok b, u) := by
  rw [exec_bind]
  rcases exec x s with ⟨e | a, t⟩
  · simp
  · refine ⟨fun rest => ⟨a, t, rfl, rest⟩, ?_⟩
    rintro ⟨_, _, same, rest⟩
    cases same
    exact rest

variable {handler : ε → Fallible σ ε α}

theorem exec_tryCatch_eq_ok {s u : σ} {b : α}
    (fails : ∀ e t, exec (handler e) t ≠ (.ok b, u)) :
    exec (tryCatch x handler) s = (.ok b, u) ↔ exec x s = (.ok b, u) := by
  rw [exec_tryCatch]
  rcases exec x s with ⟨e | a, t⟩
  · simp [fails e t]
  · rfl

theorem exec_liftM_bind_eq_ok {x : Except ε α} {s u : σ} {b : β} :
    exec ((liftM x : Fallible σ ε α) >>= f) s = (.ok b, u) ↔ ∃ a, x = .ok a ∧ exec (f a) s = (.ok b, u) := by
  rw [exec_liftM_bind]
  cases x <;> simp

def when (c : Prop) [Decidable c] (x : Fallible σ ε Unit) : Fallible σ ε Unit := if c then x else pure ()

/-- From a state in `P`, the result and the state that `x` leaves satisfy `Q`. -/
def Meets (P : σ → Prop) (x : Fallible σ ε α) (Q : Except ε α → σ → Prop) : Prop :=
  ∀ s, P s → Q (exec x s).1 (exec x s).2

/-- What a failing computation must satisfy does not depend on what would have followed it. -/
def orElse (M : α → σ → Prop) (E : ε → σ → Prop) : Except ε α → σ → Prop
  | .ok a => M a
  | .error e => E e

theorem Meets.bind {P : σ → Prop} {Q : Except ε β → σ → Prop} (M : α → σ → Prop)
    (first : Meets P x (orElse M fun e => Q (.error e))) (rest : ∀ a, Meets (M a) (f a) Q) :
    Meets P (x >>= f) Q := by
  intro s before
  have middle := first s before
  rw [exec_bind]
  rcases outcome : exec x s with ⟨e | a, t⟩
  · rw [outcome] at middle
    exact middle
  · rw [outcome] at middle
    exact rest a t middle

def Keeps (I : σ → Prop) (x : Fallible σ ε α) : Prop := Meets I x fun _ => I

variable {I : σ → Prop}

theorem Keeps.bind (first : Keeps I x) (rest : ∀ a, Keeps I (f a)) : Keeps I (x >>= f) := by
  refine Meets.bind (fun _ => I) ?_ rest
  intro s before
  have kept := first s before
  rcases outcome : exec x s with ⟨e | a, t⟩ <;> rw [outcome] at kept <;> exact kept

theorem Keeps.pure (a : α) : Keeps I (pure a : Fallible σ ε α) := fun _ before => before

theorem Keeps.throw (e : ε) : Keeps I (throw e : Fallible σ ε α) := fun _ before => before

theorem Keeps.liftM (x : Except ε α) : Keeps I (liftM x : Fallible σ ε α) :=
  fun _ before => before

theorem Keeps.get : Keeps I (get : Fallible σ ε σ) := fun _ before => before

theorem Keeps.liftM_bind {x : Except ε α}
    (rest : ∀ a, x = .ok a → Keeps I (f a)) :
    Keeps I ((MonadLiftT.monadLift x : Fallible σ ε α) >>= f) := by
  intro s before
  cases outcome : x with
  | error e => exact before
  | ok a => exact rest a outcome s before

theorem Keeps.get_bind {f : σ → Fallible σ ε β} (rest : ∀ s, I s → Keeps I (f s)) :
    Keeps I ((MonadState.get : Fallible σ ε σ) >>= f) := by
  intro s before
  exact rest s before s before

theorem Keeps.tryCatch (body : Keeps I x) (recover : ∀ e, Keeps I (handler e)) :
    Keeps I (MonadExcept.tryCatch x handler) := by
  intro s before
  have kept := body s before
  rw [exec_tryCatch]
  rcases outcome : exec x s with ⟨e | a, t⟩ <;> rw [outcome] at kept
  · exact recover e t kept
  · exact kept

theorem Keeps.modify {f : σ → σ} (keep : ∀ s, I s → I (f s)) :
    Keeps I (modify f : Fallible σ ε PUnit) := keep

variable {c : Prop}

theorem Keeps.ite [Decidable c] {x y : Fallible σ ε α}
    (yes : c → Keeps I x) (no : ¬c → Keeps I y) : Keeps I (if c then x else y) := by
  by_cases h : c
  · rw [if_pos h]
    exact yes h
  · rw [if_neg h]
    exact no h

theorem Keeps.skip [Decidable c] {a : α} (run : ¬c → Keeps I x) : Keeps I (if c then Pure.pure a else x) :=
  Keeps.ite (fun _ => Keeps.pure a) run

theorem Keeps.guard [Decidable c] {a : α} (run : c → Keeps I x) : Keeps I (if c then x else Pure.pure a) :=
  Keeps.ite run fun _ => Keeps.pure a

theorem Keeps.when [Decidable c] {x : Fallible σ ε Unit} (run : c → Keeps I x) : Keeps I (when c x) :=
  Keeps.guard run

theorem Keeps.forM {value : Option α} {f : α → Fallible σ ε PUnit}
    (run : ∀ a, value = some a → Keeps I (f a)) : Keeps I (value.forM f) := by
  cases value with
  | none => exact Keeps.pure _
  | some a => exact run a rfl

/-- Run from `s`, the computation ends in a result and a state that satisfy `Q`. -/
def Ends (x : Fallible σ ε α) (s : σ) (Q : Except ε α → σ → Prop) : Prop := Q (exec x s).1 (exec x s).2

namespace Ends

variable {Q : Except ε β → σ → Prop} {s : σ}

theorem mono {x : Fallible σ ε β} {R : Except ε β → σ → Prop} (ends : Ends x s R)
    (weaken : ∀ r t, R r t → Q r t) : Ends x s Q := weaken _ _ ends

theorem bind {R : Except ε α → σ → Prop}
    (first : Ends x s R) (failed : ∀ e t, R (.error e) t → Q (.error e) t)
    (passed : ∀ a t, R (.ok a) t → Ends (f a) t Q) : Ends (x >>= f) s Q := by
  unfold Ends at first ⊢
  rw [exec_bind]
  rcases outcome : exec x s with ⟨e | a, t⟩ <;> rw [outcome] at first
  · exact failed e t first
  · exact passed a t first

theorem get_bind {f : σ → Fallible σ ε β} (rest : Ends (f s) s Q) :
    Ends ((get : Fallible σ ε σ) >>= f) s Q := by
  exact rest

theorem modify_bind {g : σ → σ} {f : PUnit → Fallible σ ε β} (rest : Ends (f ()) (g s) Q) :
    Ends ((modify g : Fallible σ ε PUnit) >>= f) s Q := by
  exact rest

theorem liftM_bind {x : Except ε α}
    (failed : ∀ e, x = .error e → Q (.error e) s) (passed : ∀ a, x = .ok a → Ends (f a) s Q) :
    Ends ((liftM x : Fallible σ ε α) >>= f) s Q := by
  cases outcome : x with
  | error e => exact failed e outcome
  | ok a => exact passed a outcome

theorem liftM_ok {x : Except ε α} {a : α} (value : x = .ok a)
    (rest : Ends (f a) s Q) : Ends ((liftM x : Fallible σ ε α) >>= f) s Q := by
  rw [value]
  exact rest

theorem bind_ok {a : α} {t : σ}
    (first : exec x s = (.ok a, t)) (rest : Ends (f a) t Q) : Ends (x >>= f) s Q := by
  rw [Ends, exec_bind_ok first]
  exact rest

theorem bind_passed {a : α} {R : σ → Prop} (first : Ends x s fun result t => result = .ok a ∧ R t)
    (rest : ∀ t, R t → Ends (f a) t Q) : Ends (x >>= f) s Q :=
  bind first (fun _ _ failed => nomatch failed.1) fun _ t passed => Except.ok.inj passed.1 ▸ rest t passed.2

theorem tryCatch {x : Fallible σ ε β} {handler : ε → Fallible σ ε β} {R : Except ε β → σ → Prop} (body : Ends x s R)
    (passed : ∀ b t, R (.ok b) t → Q (.ok b) t) (recover : ∀ e t, R (.error e) t → Ends (handler e) t Q) :
    Ends (MonadExcept.tryCatch x handler) s Q := by
  unfold Ends at body ⊢
  rw [exec_tryCatch]
  rcases outcome : exec x s with ⟨e | b, t⟩ <;> rw [outcome] at body
  · exact recover e t body
  · exact passed b t body

theorem ite [Decidable c] {x y : Fallible σ ε β} (yes : c → Ends x s Q)
    (no : ¬c → Ends y s Q) : Ends (if c then x else y) s Q := by
  by_cases h : c
  · rw [if_pos h]
    exact yes h
  · rw [if_neg h]
    exact no h

end Ends

theorem Keeps.of_ends (run : ∀ s, I s → Ends x s fun _ => I) :
    Keeps I x := run

theorem Keeps.ends {s : σ} (keeps : Keeps I x) (before : I s) :
    Ends x s fun _ => I := keeps s before

theorem exec_of_isOk {s : σ} (passed : (exec x s).1.isOk) :
    ∃ a, exec x s = (.ok a, after x s) := by
  rw [after]
  rcases outcome : exec x s with ⟨e | a, t⟩
  · rw [outcome] at passed
    exact absurd passed Bool.false_ne_true
  · exact ⟨a, rfl⟩

def Total (x : Fallible σ ε α) : Prop := ∀ s, ∃ a t, exec x s = (.ok a, t)

namespace Total

theorem pure (a : α) : Total (pure a : Fallible σ ε α) := fun s => ⟨a, s, rfl⟩

theorem modify (f : σ → σ) : Total (modify f : Fallible σ ε PUnit) := fun s => ⟨_, f s, rfl⟩

theorem bind (first : Total x)
    (rest : ∀ a, Total (f a)) : Total (x >>= f) := by
  intro s
  obtain ⟨a, t, passed⟩ := first s
  rw [exec_bind_ok passed]
  exact rest a t

theorem get_bind {f : σ → Fallible σ ε β} (rest : ∀ s, Total (f s)) :
    Total ((get : Fallible σ ε σ) >>= f) := by
  intro s
  exact rest s s

theorem tryCatch (recover : ∀ e, Total (handler e)) : Total (MonadExcept.tryCatch x handler) := by
  intro s
  rw [exec_tryCatch]
  rcases exec x s with ⟨e | a, t⟩
  · exact recover e t
  · exact ⟨a, t, rfl⟩

theorem ite [Decidable c] {x y : Fallible σ ε α} (yes : Total x) (no : Total y) :
    Total (if c then x else y) := by
  split
  · exact yes
  · exact no

theorem passed {s : σ} {R : Except ε α → σ → Prop} (total : Total x) (run : Ends x s R) :
    Ends x s fun result t => result.isOk ∧ R result t := by
  obtain ⟨a, t, passed⟩ := total s
  rw [Ends, passed] at run ⊢
  exact ⟨rfl, run⟩

theorem ends {s : σ} (total : Total x) (keeps : Keeps I x)
    (before : I s) : Ends x s fun result t => result.isOk ∧ I t := total.passed (keeps.ends before)

theorem after_bind (total : Total x) (y : Fallible σ ε β) (s : σ) :
    after (x >>= fun _ => y) s = after y (after x s) := by
  obtain ⟨a, t, passed⟩ := total s
  rw [after, exec_bind_ok passed, after, after, passed]

theorem bind_ends {s : σ} {Q : Except ε β → σ → Prop}
    (total : Total x) (rest : ∀ a t, Ends (f a) t Q) : Ends (x >>= f) s Q := by
  obtain ⟨a, t, passed⟩ := total s
  exact Ends.bind_ok passed (rest a t)

end Total

end Fallible

theorem Except.bind_eq_ok {ε α β : Type} {x : Except ε α} {f : α → Except ε β} {b : β} :
    (x >>= f) = .ok b ↔ ∃ a, x = .ok a ∧ f a = .ok b := by
  cases x with
  | error e => simp [bind, Except.bind]
  | ok a => simp [bind, Except.bind]

theorem Except.mapError_eq_ok {ε ε' α : Type} {x : Except ε α} {f : ε → ε'} {a : α} :
    x.mapError f = .ok a ↔ x = .ok a := by
  cases x <;> constructor <;> intro same <;> cases same <;> rfl

theorem Except.guard_eq_ok {ε β : Type} [Decidable c] {e : ε} {f : PUnit → Except ε β}
    {x : Except ε β} {b : β} :
    (if c then (throw e : Except ε PUnit) >>= f else x) = .ok b ↔ ¬c ∧ x = .ok b := by
  by_cases h : c
  · simp [h, bind, Except.bind]
  · simp [h]

def orThrow {ε α : Type} (value : Option α) (error : ε) : Except ε α :=
  match value with
  | some value => .ok value
  | none => .error error

theorem orThrow_eq_ok {ε α : Type} {value : Option α} {error : ε} {a : α} :
    orThrow value error = .ok a ↔ value = some a := by
  cases value <;> simp [orThrow]

end Shuli
