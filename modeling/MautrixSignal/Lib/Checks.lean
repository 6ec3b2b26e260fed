import Mathlib.Logic.Basic

namespace MautrixSignal.Lib

variable {ε α β : Type}

-- A function that makes its checks one after the other succeeds if all of them pass.

theorem ite_error_eq_ok {p : Prop} [Decidable p] {e : ε} {x : Except ε α} {a : α} :
    (if p then .error e else x) = .ok a ↔ ¬p ∧ x = .ok a := by
  by_cases hp : p
  · rw [if_pos hp]
    exact ⟨fun h => (nomatch h), fun h => absurd hp h.1⟩
  · rw [if_neg hp]
    exact ⟨fun h => ⟨hp, h⟩, fun h => h.2⟩

theorem ite_else_error_eq_ok {p : Prop} [Decidable p] {e : ε} {x : Except ε α} {a : α} :
    (if p then x else .error e) = .ok a ↔ p ∧ x = .ok a := by
  by_cases hp : p
  · rw [if_pos hp]
    exact ⟨fun h => ⟨hp, h⟩, fun h => h.2⟩
  · rw [if_neg hp]
    exact ⟨fun h => (nomatch h), fun h => absurd h.1 hp⟩

theorem map_eq_ok_iff {x : Except ε α} {f : α → β} {b : β} : f <$> x = .ok b ↔ ∃ a, x = .ok a ∧ f a = b := by
  cases x with
  | error e | ok a => simp [Functor.map, Except.map]

theorem eq_error_of_map {x : Except ε α} {f : α → β} {e : ε} (h : x.map f = .error e) : x = .error e := by
  cases x with
  | error e' => exact congrArg Except.error (Except.error.inj h)
  | ok a => cases h

theorem bind_eq_ok_iff.{u, v} {ε : Type u} {α β : Type v} {m : Except ε α} {k : α → Except ε β} {b : β} :
    (m >>= k) = .ok b ↔ ∃ a, m = .ok a ∧ k a = .ok b := by
  cases m with
  | error e | ok a => simp [bind, Except.bind]

-- The computation succeeds if and only if the condition holds, and then with such a result.
def Settles (x : Except ε α) (p : Prop) (Q : α → Prop) : Prop :=
  match x with
  | .error _ => ¬p
  | .ok a => p ∧ Q a

namespace Settles

variable {x : Except ε α} {p q : Prop} {Q : α → Prop} {R : β → Prop}

theorem of_ok {a : α} (h : x = .ok a) : Settles x True (· = a) := by
  subst h
  exact ⟨trivial, rfl⟩

theorem congr (hiff : q ↔ p) (h : Settles x p Q) : Settles x q Q := by
  rwa [propext hiff]

theorem map {f : α → β} (h : Settles x p Q) (hf : ∀ a, Q a → R (f a)) :
    Settles (do let a ← x; pure (f a)) p R := by
  cases x with
  | error e => exact h
  | ok a => exact ⟨h.1, hf a h.2⟩

theorem bind {f : α → Except ε β} (hx : Settles x p Q) (hf : ∀ a, Q a → Settles (f a) q R) :
    Settles (x >>= f) (p ∧ q) R := by
  cases x with
  | error e => exact fun h => hx h.1
  | ok a => exact .congr (and_iff_right hx.1) (hf a hx.2)

theorem imp {R : α → Prop} (h : Settles x p Q) (hQ : ∀ a, x = .ok a → Q a → R a) : Settles x p R := by
  cases x with
  | error e => exact h
  | ok a => exact ⟨h.1, hQ a rfl h.2⟩

theorem exists_ok (h : Settles x p Q) (hp : p) : ∃ a, x = .ok a ∧ Q a := by
  cases x with
  | error e => exact absurd hp h
  | ok a => exact ⟨a, rfl, h.2⟩

theorem isOk_iff (h : Settles x p Q) : (∃ a, x = .ok a) ↔ p := by
  cases x with
  | error e => exact ⟨nofun, fun hp => absurd hp h⟩
  | ok a => exact ⟨fun _ => h.1, fun _ => ⟨a, rfl⟩⟩

end Settles

end MautrixSignal.Lib
