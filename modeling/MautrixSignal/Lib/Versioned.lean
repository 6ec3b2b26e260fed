import Mathlib.Data.Nat.Basic

namespace MautrixSignal.Lib

section Newer

variable {σ : Type*} {version : σ → ℕ} {s t u : σ}

-- The second state is the first one, or one with a higher version. A store whose
-- version grows with every change only moves along this relation.
def Newer (version : σ → ℕ) (s t : σ) : Prop :=
  t = s ∨ version s < version t

theorem Newer.refl (s : σ) : Newer version s s :=
  .inl rfl

theorem Newer.of_lt (h : version s < version t) : Newer version s t :=
  .inr h

theorem Newer.version_le (h : Newer version s t) : version s ≤ version t := by
  rcases h with h | h
  · rw [h]
  · omega

theorem Newer.trans (h : Newer version s t) (h' : Newer version t u) : Newer version s u := by
  rcases h' with h' | h'
  · rwa [h']
  · have hle := h.version_le
    exact .inr (by omega)

theorem Newer.eq_of_version_eq (h : Newer version s t) (hv : version t = version s) : t = s := by
  rcases h with h | h
  · exact h
  · omega

theorem Newer.ne_of_lt (h : Newer version s t) (hlt : version t < version u) : s ≠ u := by
  intro heq
  have hle := h.version_le
  rw [heq] at hle
  omega

end Newer

end MautrixSignal.Lib
