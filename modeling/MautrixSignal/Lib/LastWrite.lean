import Mathlib.Logic.Function.Basic

namespace MautrixSignal.Lib

variable {κ ν : Type} [DecidableEq κ]

def overwrite (cells : κ → ν) : List (κ × ν) → κ → ν
  | [] => cells
  | (key, value) :: rest => overwrite (Function.update cells key value) rest

def lastWrite : List (κ × ν) → κ → Option ν
  | [], _ => none
  | (key, value) :: rest, other => (lastWrite rest other).or (if other = key then some value else none)

theorem overwrite_append (cells : κ → ν) (first second : List (κ × ν)) :
    overwrite cells (first ++ second) = overwrite (overwrite cells first) second := by
  induction first generalizing cells with
  | nil => rfl
  | cons write rest ih => exact ih (Function.update cells write.1 write.2)

theorem overwrite_apply (cells : κ → ν) (writes : List (κ × ν)) (key : κ) :
    overwrite cells writes key = (lastWrite writes key).getD (cells key) := by
  induction writes generalizing cells with
  | nil => rfl
  | cons write rest ih =>
    rw [overwrite, ih, lastWrite]
    cases lastWrite rest key with
    | some value => rfl
    | none =>
      by_cases hkey : key = write.1
      · subst hkey
        simp
      · simp [hkey]

theorem overwrite_eq_self_iff (cells : κ → ν) (writes : List (κ × ν)) :
    overwrite cells writes = cells ↔ ∀ key value, lastWrite writes key = some value → cells key = value := by
  constructor
  · intro heq key value hlast
    have hcell := overwrite_apply cells writes key
    rw [heq, hlast] at hcell
    exact hcell
  · intro hsame
    funext key
    rw [overwrite_apply]
    cases hlast : lastWrite writes key with
    | none => rfl
    | some value => exact (hsame key value hlast).symm

end MautrixSignal.Lib
