/-
  TemplatedNotes/Proofs/Action.lean
  =================================
  **What an action gives and what it leaves.**

  An action on a state ends with a result or with a failure, and leaves a state in both cases.
  `Gives` and `Fails` are the two ends; the lemmas take a sequence of actions apart into the ends
  of its steps, so that no later proof runs an action by unfolding the monad.  A sequence of
  outcomes, which has no state, is taken apart in the same way.  What an action keeps whatever end
  it comes to (`Keeps`) is put together from what its steps keep.
-/
import TemplatedNotes.Vault.Basic

namespace TemplatedNotes

/-! ### Outcomes -/

namespace Outcome

variable {ε α β : Type}

theorem bind_eq_ok {x : Except ε α} {k : α → Except ε β} {b : β} :
    x >>= k = .ok b ↔ ∃ a, x = .ok a ∧ k a = .ok b := by
  cases x with
  | error f =>
    constructor
    · intro h
      cases h
    · rintro ⟨a, h, -⟩
      cases h
  | ok a =>
    constructor
    · intro h
      exact ⟨a, rfl, h⟩
    · rintro ⟨a', h, hk⟩
      cases h
      exact hk

theorem bind_eq_error {x : Outcome α} {k : α → Outcome β} {f : Failure} :
    x >>= k = .error f ↔ x = .error f ∨ ∃ a, x = .ok a ∧ k a = .error f := by
  cases x with
  | error e =>
    constructor
    · intro h
      cases h
      exact Or.inl rfl
    · rintro (h | ⟨a, h, -⟩)
      · cases h
        rfl
      · cases h
  | ok a =>
    constructor
    · intro h
      exact Or.inr ⟨a, rfl, h⟩
    · rintro (h | ⟨a', h, hk⟩)
      · cases h
      · cases h
        exact hk

theorem map_eq_ok {x : Except ε α} {g : α → β} {b : β} :
    x.map g = .ok b ↔ ∃ a, x = .ok a ∧ g a = b := by
  cases x with
  | error f =>
    constructor
    · intro h
      cases h
    · rintro ⟨a, h, -⟩
      cases h
  | ok a =>
    constructor
    · intro h
      exact ⟨a, rfl, Except.ok.inj h⟩
    · rintro ⟨a', h, rfl⟩
      cases h
      rfl

theorem map_eq_error {x : Outcome α} {g : α → β} {f : Failure} :
    x.map g = .error f ↔ x = .error f := by
  cases x with
  | error e =>
    constructor
    · intro h
      cases h
      rfl
    · intro h
      cases h
      rfl
  | ok a =>
    constructor
    · intro h
      cases h
    · intro h
      cases h

/-- A result can be checked by evaluation even where failures cannot be compared. -/
theorem eq_ok_of_toOption {ε : Type} {x : Except ε α} {a : α} (h : x.toOption = some a) :
    x = .ok a := by
  cases x with
  | error e => cases h
  | ok b => exact congrArg Except.ok (Option.some.inj h)

end Outcome

/-! ### Actions -/

namespace Action

variable {σ α β : Type}

/-- From a state the action gives a result and leaves a state. -/
def Gives (x : Action σ α) (s : σ) (a : α) (s' : σ) : Prop := x.run.run s = (.ok a, s')

/-- From a state the action fails and leaves a state. -/
def Fails (x : Action σ α) (s : σ) (f : Failure) (s' : σ) : Prop := x.run.run s = (.error f, s')

/-- An action that gives something gives nothing else. -/
theorem Gives.unique {x : Action σ α} {s s₁ s₂ : σ} {a b : α} (h₁ : Gives x s a s₁)
    (h₂ : Gives x s b s₂) : a = b ∧ s₁ = s₂ := by
  have h : ((.ok a, s₁) : Outcome α × σ) = (.ok b, s₂) := h₁.symm.trans h₂
  injection h with ha hs
  injection ha with ha
  exact ⟨ha, hs⟩

/-- What an action gives can be checked by evaluation. -/
theorem exists_gives_of_run {x : Action σ α} {f : α → β} {s : σ} {b : β}
    (h : (x.run.run s).1.toOption.map f = some b) : ∃ a s', Gives x s a s' ∧ f a = b := by
  obtain ⟨a, ha, hb⟩ := Option.map_eq_some_iff.1 h
  exact ⟨a, (x.run.run s).2, Prod.ext (Outcome.eq_ok_of_toOption ha) rfl, hb⟩

theorem gives_of_run {x : Action σ α} {s : σ} {a : α} (h : (x.run.run s).1.toOption = some a) :
    Gives x s a (x.run.run s).2 := Prod.ext (Outcome.eq_ok_of_toOption h) rfl

theorem gives_pure {s s' : σ} {a b : α} :
    Gives (pure a : Action σ α) s b s' ↔ b = a ∧ s' = s := by
  constructor
  · intro h
    have h' : ((.ok a, s) : Outcome α × σ) = (.ok b, s') := h
    injection h' with ha hs
    injection ha with ha
    exact ⟨ha.symm, hs.symm⟩
  · rintro ⟨rfl, rfl⟩
    rfl

theorem not_fails_pure {s s' : σ} {a : α} {f : Failure} :
    ¬ Fails (pure a : Action σ α) s f s' := by
  intro h
  have h' : ((.ok a, s) : Outcome α × σ) = (.error f, s') := h
  injection h' with h' _
  cases h'

theorem not_fails_modifyThe {s s' : σ} {g : σ → σ} {f : Failure} :
    ¬ Fails (modifyThe σ g : Action σ PUnit) s f s' := by
  intro h
  have h' : ((.ok ⟨⟩, g s) : Outcome PUnit × σ) = (.error f, s') := h
  injection h' with h' _
  cases h'

theorem run_lift (r : Outcome α) (s : σ) : (lift r : Action σ α).run.run s = (r, s) := rfl

theorem gives_lift {s s' : σ} {r : Outcome α} {a : α} :
    Gives (lift r : Action σ α) s a s' ↔ r = .ok a ∧ s' = s := by
  constructor
  · intro h
    have h' : ((r, s) : Outcome α × σ) = (.ok a, s') := h
    injection h' with hr hs
    exact ⟨hr, hs.symm⟩
  · rintro ⟨rfl, rfl⟩
    rfl

theorem fails_lift {s s' : σ} {r : Outcome α} {f : Failure} :
    Fails (lift r : Action σ α) s f s' ↔ r = .error f ∧ s' = s := by
  constructor
  · intro h
    have h' : ((r, s) : Outcome α × σ) = (.error f, s') := h
    injection h' with hr hs
    exact ⟨hr, hs.symm⟩
  · rintro ⟨rfl, rfl⟩
    rfl

theorem gives_get {s s' t : σ} : Gives (get : Action σ σ) s t s' ↔ t = s ∧ s' = s := by
  constructor
  · intro h
    have h' : ((.ok s, s) : Outcome σ × σ) = (.ok t, s') := h
    injection h' with ht hs
    injection ht with ht
    exact ⟨ht.symm, hs.symm⟩
  · rintro ⟨rfl, rfl⟩
    rfl

theorem gives_modifyThe {s s' : σ} {g : σ → σ} {u : PUnit} :
    Gives (modifyThe σ g : Action σ PUnit) s u s' ↔ s' = g s := by
  constructor
  · intro h
    have h' : ((.ok ⟨⟩, g s) : Outcome PUnit × σ) = (.ok u, s') := h
    injection h' with _ hs
    exact hs.symm
  · rintro rfl
    rfl

/-- The run of a sequence: the run of its first step, and from what that leaves the run of the
    second one if the first gave something. -/
theorem run_bind (x : Action σ α) (k : α → Action σ β) (s : σ) :
    (x >>= k).run.run s =
      match x.run.run s with
      | (.ok a, s₁) => (k a).run.run s₁
      | (.error f, s₁) => (.error f, s₁) := by
  show (match x.run.run s with
    | (r, s₁) => (ExceptT.bindCont k r).run s₁) = _
  rcases x.run.run s with ⟨r, s₁⟩
  cases r <;> rfl

theorem gives_bind {x : Action σ α} {k : α → Action σ β} {s s' : σ} {b : β} :
    Gives (x >>= k) s b s' ↔ ∃ a s₁, Gives x s a s₁ ∧ Gives (k a) s₁ b s' := by
  simp only [Gives, run_bind]
  rcases x.run.run s with ⟨r, s₁⟩
  cases r with
  | ok a =>
    constructor
    · intro h
      exact ⟨a, s₁, rfl, h⟩
    · rintro ⟨a', s₂, h, hk⟩
      cases h
      exact hk
  | error f =>
    constructor
    · intro h
      injection h with h
      cases h
    · rintro ⟨a', s₂, h, -⟩
      injection h with h
      cases h

theorem fails_bind {x : Action σ α} {k : α → Action σ β} {s s' : σ} {f : Failure} :
    Fails (x >>= k) s f s' ↔
      Fails x s f s' ∨ ∃ a s₁, Gives x s a s₁ ∧ Fails (k a) s₁ f s' := by
  simp only [Gives, Fails, run_bind]
  rcases x.run.run s with ⟨r, s₁⟩
  cases r with
  | ok a =>
    constructor
    · intro h
      exact Or.inr ⟨a, s₁, rfl, h⟩
    · rintro (h | ⟨a', s₂, h, hk⟩)
      · injection h with h
        cases h
      · cases h
        exact hk
  | error e =>
    -- the two failures are equal but belong to results of different types
    constructor
    · intro h
      injection h with he hs
      injection he with he
      exact Or.inl (by rw [he, hs])
    · rintro (h | ⟨a', s₂, h, -⟩)
      · injection h with he hs
        injection he with he
        rw [he, hs]
      · injection h with h
        cases h

/-! ### First steps that give what is known -/

theorem gives_get_bind {k : σ → Action σ β} {s s' : σ} {b : β} :
    Gives (get >>= k) s b s' ↔ Gives (k s) s b s' := Iff.rfl

theorem fails_get_bind {k : σ → Action σ β} {s s' : σ} {f : Failure} :
    Fails (get >>= k) s f s' ↔ Fails (k s) s f s' := Iff.rfl

theorem gives_lift_bind {r : Outcome α} {a : α} (h : r = .ok a) {k : α → Action σ β} {s s' : σ}
    {b : β} : Gives (lift r >>= k) s b s' ↔ Gives (k a) s b s' := by
  subst h
  exact Iff.rfl

/-! ### What an action keeps -/

/-- Whatever end the action comes to, it leaves a state with the property if it started from one. -/
def Keeps (x : Action σ α) (P : σ → Prop) : Prop := ∀ s, P s → P (x.run.run s).2

section Keeps

variable {P : σ → Prop} {x : Action σ α} {k : α → Action σ β}

theorem Keeps.of_gives (h : Keeps x P) {s s' : σ} {a : α} (hx : Gives x s a s') (hs : P s) :
    P s' := by
  have hkept := h s hs
  rwa [hx] at hkept

theorem keeps_pure (a : α) : Keeps (pure a : Action σ α) P := fun _ hs => hs

theorem keeps_lift (r : Outcome α) : Keeps (lift r) P := fun _ hs => hs

theorem keeps_get : Keeps (get : Action σ σ) P := fun _ hs => hs

theorem keeps_modifyThe {f : σ → σ} (h : ∀ s, P s → P (f s)) :
    Keeps (modifyThe σ f : Action σ PUnit) P := h

/-- Steps that keep a property keep it one after the other. -/
theorem keeps_bind (hx : Keeps x P) (hk : ∀ a, Keeps (k a) P) : Keeps (x >>= k) P := by
  intro s hs
  have hfirst := hx s hs
  rw [run_bind]
  rcases hrun : x.run.run s with ⟨r, s₁⟩
  rw [hrun] at hfirst
  cases r with
  | ok a => exact hk a s₁ hfirst
  | error f => exact hfirst

end Keeps

end Action

end TemplatedNotes
