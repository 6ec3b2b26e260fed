import Mathlib.Data.List.Basic
import Mathlib.Data.List.Pairwise

namespace MautrixSignal.Lib

section KeyedTable

variable {ρ κ : Type*} [DecidableEq κ] {key : ρ → Option κ} {k : κ} {rows : List ρ} {r fresh : ρ}
  {update : ρ → ρ}

-- A SQL unique constraint on a nullable column. NULL never conflicts with NULL.
def UniqueOn (key : ρ → Option κ) (rows : List ρ) : Prop :=
  rows.Pairwise fun r s => key r = none ∨ key r ≠ key s

instance (key : ρ → Option κ) (rows : List ρ) : Decidable (UniqueOn key rows) :=
  inferInstanceAs (Decidable (rows.Pairwise fun r s => key r = none ∨ key r ≠ key s))

def selectOn (key : ρ → Option κ) (k : κ) (rows : List ρ) : Option ρ :=
  rows.find? fun r => key r = some k

def deleteOn (key : ρ → Option κ) (k : κ) (rows : List ρ) : List ρ :=
  rows.filter fun r => key r ≠ some k

def upsertOn (key : ρ → Option κ) (k : κ) (update : ρ → ρ) (fresh : ρ) (rows : List ρ) : List ρ :=
  if (selectOn key k rows).isSome then
    rows.map fun r => if key r = some k then update r else r
  else rows ++ [fresh]

theorem selectOn_eq_none : selectOn key k rows = none ↔ ∀ r ∈ rows, key r ≠ some k := by
  simp [selectOn]

theorem selectOn_mem (h : selectOn key k rows = some r) : r ∈ rows ∧ key r = some k := by
  refine ⟨List.mem_of_find?_eq_some h, ?_⟩
  simpa using List.find?_some h

omit [DecidableEq κ] in
theorem UniqueOn.eq_of_key (h : UniqueOn key rows) {s : ρ} (hr : r ∈ rows) (hs : s ∈ rows)
    (hkr : key r = some k) (hks : key s = some k) : r = s := by
  induction rows with
  | nil => cases hr
  | cons x rows ih =>
    obtain ⟨hx, hrest⟩ := List.pairwise_cons.mp h
    rcases List.mem_cons.mp hr with hr' | hr' <;> rcases List.mem_cons.mp hs with hs' | hs'
    · rw [hr', hs']
    · subst hr'; simpa [hkr, hks] using hx s hs'
    · subst hs'; simpa [hkr, hks] using hx r hr'
    · exact ih hrest hr' hs'

theorem UniqueOn.selectOn_eq (h : UniqueOn key rows) (hr : r ∈ rows) (hk : key r = some k) :
    selectOn key k rows = some r := by
  cases hs : selectOn key k rows with
  | none => exact absurd hk (selectOn_eq_none.mp hs r hr)
  | some s =>
    obtain ⟨hm, hks⟩ := selectOn_mem hs
    rw [h.eq_of_key hr hm hk hks]

omit [DecidableEq κ] in
theorem UniqueOn.filter (h : UniqueOn key rows) (p : ρ → Bool) : UniqueOn key (rows.filter p) :=
  List.Pairwise.filter p h

theorem selectOn_map {f : ρ → ρ} (hf : ∀ r ∈ rows, key (f r) = key r) :
    selectOn key k (rows.map f) = (selectOn key k rows).map f := by
  induction rows with
  | nil => rfl
  | cons r rows ih =>
    have hr := hf r List.mem_cons_self
    have ih := ih fun s hs => hf s (List.mem_cons_of_mem _ hs)
    unfold selectOn at ih ⊢
    by_cases hk : key r = some k <;> simp [hr, hk, ih]

-- The row found after an upsert: the written one under its own key, and under
-- any other key what was there before.
theorem selectOn_upsertOn {k' : κ} (hupd : ∀ r, key (update r) = key r) (hfresh : key fresh = some k) :
    selectOn key k' (upsertOn key k update fresh rows) =
      if k' = k then some (((selectOn key k rows).map update).getD fresh)
      else selectOn key k' rows := by
  cases hs : selectOn key k rows with
  | none =>
    simp only [upsertOn, hs]
    by_cases hk : k' = k
    · subst hk
      simp only [selectOn] at hs ⊢
      simp [hs, hfresh]
    · simp only [selectOn, hk]
      simp [hfresh, Ne.symm hk]
  | some s =>
    obtain ⟨_, hks⟩ := selectOn_mem hs
    simp only [upsertOn, hs, Option.isSome_some, if_true]
    rw [selectOn_map (by intro r _; split <;> simp [hupd])]
    by_cases hk : k' = k
    · subst hk; simp [hs, hks]
    rw [if_neg hk]
    cases ho : selectOn key k' rows with
    | none => rfl
    | some o =>
      obtain ⟨_, hko⟩ := selectOn_mem ho
      simp [hko, hk]

omit [DecidableEq κ] in
theorem UniqueOn.append_fresh (h : UniqueOn key rows)
    (hfree : ∀ r ∈ rows, key fresh = none ∨ key r ≠ key fresh) : UniqueOn key (rows ++ [fresh]) := by
  refine List.pairwise_append.mpr ⟨h, List.pairwise_singleton _ _, ?_⟩
  intro r hr s hs
  rw [List.mem_singleton.mp hs]
  rcases hfree r hr with hnone | hne
  · cases hr : key r with
    | none => exact .inl rfl
    | some k => exact .inr (by simp [hnone])
  · exact .inr hne

theorem UniqueOn.upsertOn_self (h : UniqueOn key rows) (hupd : ∀ r, key (update r) = key r)
    (hfresh : key fresh = some k) : UniqueOn key (upsertOn key k update fresh rows) := by
  cases hs : selectOn key k rows with
  | none =>
    have hnone := selectOn_eq_none.mp hs
    simp only [upsertOn, hs]
    refine h.append_fresh ?_
    intro r hr
    rw [hfresh]
    exact .inr (hnone r hr)
  | some s =>
    simp only [upsertOn, hs]
    refine List.pairwise_map.mpr (h.imp ?_)
    intro r s hrs
    have hkey : ∀ r, key (if key r = some k then update r else r) = key r := by
      intro r
      split <;> simp [hupd]
    rw [hkey, hkey]
    exact hrs

-- It keeps the constraint on another column if it writes NULL there, or a value
-- that no row with another key has.
theorem UniqueOn.upsertOn_other {other : ρ → Option κ} {c : Option κ} (h : UniqueOn key rows)
    (ho : UniqueOn other rows) (hupd : ∀ r, other (update r) = c) (hfresh : other fresh = c)
    (hfree : ∀ r ∈ rows, key r ≠ some k → c = none ∨ other r ≠ c) :
    UniqueOn other (upsertOn key k update fresh rows) := by
  cases hs : selectOn key k rows with
  | none =>
    have hnone := selectOn_eq_none.mp hs
    simp only [upsertOn, hs]
    refine ho.append_fresh ?_
    intro r hr
    rw [hfresh]
    exact hfree r hr (hnone r hr)
  | some s =>
    simp only [upsertOn, hs]
    refine List.pairwise_map.mpr ((h.and ho).imp_of_mem ?_)
    intro r s hr hs ⟨hkey, hother⟩
    by_cases hkr : key r = some k <;> by_cases hks : key s = some k
    · simp [hkr, hks] at hkey
    · simp only [hkr, hks, if_true, hupd]
      rcases hfree s hs hks with hc | hc
      · exact .inl hc
      · exact .inr (Ne.symm hc)
    · simp only [hkr, hks, if_true, if_false, hupd]
      rcases hfree r hr hkr with hc | hc
      · cases hor : other r with
        | none => exact .inl rfl
        | some _ => exact .inr (by simp [hc])
      · exact .inr hc
    · simpa [hkr, hks] using hother

end KeyedTable

end MautrixSignal.Lib
