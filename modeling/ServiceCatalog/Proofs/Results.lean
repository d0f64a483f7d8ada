import Mathlib.Control.Monad.Basic

/-!
# Results that may be errors

When a result computed in steps is a success, every step was one; when it is an error, one step failed and those before
it were successes.
-/

namespace ServiceCatalog

variable {ε ε' α β γ δ : Type}

theorem bind_eq_ok_iff {x : Except ε α} {f : α → Except ε β} {b : β} :
    (x >>= f) = .ok b ↔ ∃ a, x = .ok a ∧ f a = .ok b := by
  cases x <;> simp [bind, Except.bind]

/-- A step that only checks something has a success without content. -/
theorem check_bind_eq_ok_iff {x : Except ε Unit} {f : Unit → Except ε β} {b : β} :
    (x >>= f) = .ok b ↔ x = .ok () ∧ f () = .ok b := by
  rw [bind_eq_ok_iff]
  exact ⟨fun ⟨_, hx, hf⟩ => ⟨hx, hf⟩, fun ⟨hx, hf⟩ => ⟨(), hx, hf⟩⟩

theorem map_eq_ok_iff {x : Except ε α} {f : α → β} {b : β} : x.map f = .ok b ↔ ∃ a, x = .ok a ∧ f a = b := by
  cases x <;> simp [Except.map]

theorem map_eq_error_iff {x : Except ε α} {f : α → β} {e : ε} : x.map f = .error e ↔ x = .error e := by
  cases x <;> simp [Except.map]

theorem mapError_eq_ok_iff {x : Except ε α} {f : ε → ε'} {a : α} : x.mapError f = .ok a ↔ x = .ok a := by
  cases x <;> simp [Except.mapError]

theorem bind_eq_error_iff {x : Except ε α} {f : α → Except ε β} {e : ε} :
    (x >>= f) = .error e ↔ x = .error e ∨ ∃ a, x = .ok a ∧ f a = .error e := by
  cases x <;> simp [bind, Except.bind]

theorem mapError_eq_error_iff {x : Except ε α} {f : ε → ε'} {e' : ε'} :
    x.mapError f = .error e' ↔ ∃ e, x = .error e ∧ f e = e' := by
  cases x <;> simp [Except.mapError]

/-- An error stays the same if further steps are replaced by others that fail in the same way. -/
theorem bind_eq_error_of {x : Except ε α} {f g : α → Except ε β} {e : ε} (h : (x >>= f) = .error e)
    (hnext : ∀ a, x = .ok a → f a = .error e → g a = .error e) : (x >>= g) = .error e := by
  obtain hfirst | ⟨a, hfirst, hf⟩ := bind_eq_error_iff.mp h
  · exact bind_eq_error_iff.mpr (Or.inl hfirst)
  · exact bind_eq_error_iff.mpr (Or.inr ⟨a, hfirst, hnext a hfirst hf⟩)

/-- Two computations with the same first step are the same if their further steps are. -/
theorem bind_congr_of_ok {x : Except ε α} {f g : α → Except ε β} (h : ∀ a, x = .ok a → f a = g a) :
    (x >>= f) = x >>= g := by
  cases x with
  | error e => rfl
  | ok a => exact h a rfl

/-- Two computations with the same first step are the same in some respect if their further steps are. -/
theorem map_bind_congr {x : Except ε α} {f g : α → Except ε β} {view : β → γ}
    (h : ∀ a, x = .ok a → (f a).map view = (g a).map view) : (x >>= f).map view = (x >>= g).map view := by
  cases x with
  | error e => rfl
  | ok a => exact h a rfl

/-- Two results that are the same in some respect stay so in a respect that only depends on it. -/
theorem map_map_congr {x y : Except ε α} {f : α → β} {view : α → γ} {further : β → δ} (onward : γ → δ)
    (h : x.map view = y.map view) (hview : ∀ a, further (f a) = onward (view a)) :
    (x.map f).map further = (y.map f).map further := by
  have hthrough (z : Except ε α) : (z.map f).map further = (z.map view).map onward := by
    cases z <;> simp [Except.map, hview]
  rw [hthrough, hthrough, h]

/-- Two results that are errors both, or successes with contents in a relation. -/
inductive Agree (R : α → β → Prop) : Except ε α → Except ε' β → Prop
  | ok {a : α} {b : β} : R a b → Agree R (.ok a) (.ok b)
  | error {e : ε} {e' : ε'} : Agree R (.error e) (.error e')

namespace Agree

variable {R : α → β → Prop} {S : γ → δ → Prop} {x : Except ε α} {y : Except ε' β}

theorem bind {f : α → Except ε γ} {g : β → Except ε' δ} (h : Agree R x y) (hnext : ∀ a b, R a b → Agree S (f a) (g b)) :
    Agree S (x >>= f) (y >>= g) := by
  cases h with
  | ok hcontents => exact hnext _ _ hcontents
  | error => exact .error

theorem map {f : α → γ} {g : β → δ} (h : Agree R x y) (hnext : ∀ a b, R a b → S (f a) (g b)) :
    Agree S (x.map f) (y.map g) := by
  cases h with
  | ok hcontents => exact .ok (hnext _ _ hcontents)
  | error => exact .error

theorem imp {S : α → β → Prop} (h : Agree R x y) (himp : ∀ a b, R a b → S a b) : Agree S x y := by
  cases h with
  | ok hcontents => exact .ok (himp _ _ hcontents)
  | error => exact .error

theorem eq_ok_iff {x y : Except ε α} (h : Agree Eq x y) {a : α} : x = .ok a ↔ y = .ok a := by
  cases h with
  | ok heq => rw [heq]
  | error => exact ⟨nofun, nofun⟩

end Agree

theorem mem_of_mapM {f : α → Except ε β} {items : List α} {results : List β} {b : β} (h : items.mapM f = .ok results)
    (hb : b ∈ results) : ∃ a ∈ items, f a = .ok b := by
  induction items generalizing results with
  | nil =>
    cases h
    cases hb
  | cons a items ih =>
    rw [List.mapM_cons] at h
    obtain ⟨first, hfirst, h⟩ := bind_eq_ok_iff.mp h
    obtain ⟨rest, hrest, heq⟩ := bind_eq_ok_iff.mp h
    cases heq
    obtain rfl | hb := List.mem_cons.mp hb
    · exact ⟨a, List.mem_cons_self, hfirst⟩
    · obtain ⟨a, ha, hf⟩ := ih hrest hb
      exact ⟨a, List.mem_cons_of_mem _ ha, hf⟩

end ServiceCatalog
