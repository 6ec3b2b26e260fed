import Mathlib.Logic.Basic

namespace MautrixSignal.Lib

variable {σ α ε : Type*} {step : σ → α → σ → Prop}

-- A finite run of a labelled step relation, with its labels oldest first.
inductive Run (step : σ → α → σ → Prop) : σ → List α → σ → Prop
  | refl (s : σ) : Run step s [] s
  | snoc {s t u : σ} {labels : List α} {a : α} :
      Run step s labels t → step t a u → Run step s (labels ++ [a]) u

namespace Run

variable {s t u : σ} {a : α} {as : List α}

theorem single (h : step s a t) : Run step s [a] t :=
  snoc (refl s) h

theorem trans {bs : List α} (h : Run step s as t) (h' : Run step t bs u) : Run step s (as ++ bs) u := by
  induction h' with
  | refl => simpa using h
  | snoc _ hs ih =>
    rw [← List.append_assoc]
    exact snoc ih hs

theorem cons (h : step s a t) (h' : Run step t as u) : Run step s (a :: as) u :=
  trans (single h) h'

theorem eq_of_nil (h : Run step s [] u) : s = u := by
  generalize hlabels : ([] : List α) = labels at h
  cases h with
  | refl => rfl
  | snoc _ _ => simp at hlabels

theorem cons_inv (h : Run step s (a :: as) u) : ∃ t, step s a t ∧ Run step t as u := by
  generalize hlabels : a :: as = labels at h
  induction h generalizing as with
  | refl => cases hlabels
  | snoc hr hs ih =>
    rcases List.append_eq_cons_iff.mp hlabels.symm with ⟨rfl, hrest⟩ | ⟨init, rfl, rfl⟩
    · obtain rfl := eq_of_nil hr
      cases hrest
      exact ⟨_, hs, refl _⟩
    · obtain ⟨t, ht, hr'⟩ := ih rfl
      exact ⟨t, ht, snoc hr' hs⟩

-- What holds at the start and survives every step holds at the end of a run.
theorem invariant {I : σ → Prop} (hstep : ∀ t a u, I t → step t a u → I u) {labels : List α}
    (h : Run step s labels u) (hs : I s) : I u := by
  induction h with
  | refl => exact hs
  | snoc _ ha ih => exact hstep _ _ _ ih ha

theorem mono {step' : σ → α → σ → Prop} (hsub : ∀ t a u, step t a u → step' t a u) {labels : List α}
    (h : Run step s labels u) : Run step' s labels u := by
  induction h with
  | refl => exact refl _
  | snoc _ ha ih => exact snoc ih (hsub _ _ _ ha)

end Run

-- A step relation restricted to the steps whose label and source state meet a guard.
def Guarded (guard : σ → α → Prop) (step : σ → α → σ → Prop) (s : σ) (a : α) (t : σ) : Prop :=
  guard s a ∧ step s a t

-- The state that a list of labels leads to, when the step is a function and the guard can be tested.
def runThrough (guard : σ → α → Bool) (step : σ → α → Option σ) : σ → List α → Option σ
  | s, [] => some s
  | s, a :: as => if guard s a then (step s a).bind fun t => runThrough guard step t as else none

theorem run_of_runThrough {guard : σ → α → Bool} {step : σ → α → Option σ} {s u : σ} {as : List α}
    (h : runThrough guard step s as = some u) :
    Run (Guarded (fun s a => guard s a = true) fun s a t => step s a = some t) s as u := by
  induction as generalizing s with
  | nil =>
    obtain rfl := Option.some.inj h
    exact .refl s
  | cons a as ih =>
    simp only [runThrough, Option.ite_none_right_eq_some, Option.bind_eq_some_iff] at h
    obtain ⟨hguard, t, ht, hrest⟩ := h
    exact .cons ⟨hguard, ht⟩ (ih hrest)

section

variable {guard : σ → α → Bool} {step : σ → α → Option σ} {s : σ} {as : List α} {P : σ → Prop} [DecidablePred P]

-- A run is found by taking its steps and testing where they lead.
theorem exists_run (h : (runThrough guard step s as).any (fun u => P u) = true) :
    ∃ u, Run (Guarded (fun s a => guard s a = true) fun s a t => step s a = some t) s as u ∧ P u := by
  obtain ⟨u, hu, hP⟩ := (Option.any_eq_true _ _).mp h
  exact ⟨u, run_of_runThrough hu, of_decide_eq_true hP⟩

theorem exists_free_run (h : (runThrough (fun _ _ => true) step s as).any (fun u => P u) = true) :
    ∃ u, Run (fun s a t => step s a = some t) s as u ∧ P u := by
  obtain ⟨u, hrun, hP⟩ := exists_run h
  exact ⟨u, hrun.mono fun _ _ _ hstep => hstep.2, hP⟩

end

variable (record : σ → α → List ε)

def Recorded (step : σ → α → σ → Prop) (s : σ × List ε) (a : α) (t : σ × List ε) : Prop :=
  step s.1 a t.1 ∧ t.2 = s.2 ++ record s.1 a

theorem Run.of_recorded {record : σ → α → List ε} {s t : σ × List ε} {labels : List α}
    (h : Run (Recorded record step) s labels t) : Run step s.1 labels t.1 := by
  induction h with
  | refl => exact .refl _
  | snoc _ ha ih => exact .snoc ih ha.1

theorem Run.exists_recorded {s t : σ} {labels : List α} (h : Run step s labels t) (before : List ε) :
    ∃ after, Run (Recorded record step) (s, before) labels (t, after) := by
  induction h with
  | refl => exact ⟨before, .refl _⟩
  | snoc _ ha ih =>
    obtain ⟨after, hrun⟩ := ih
    exact ⟨_, .snoc hrun ⟨ha, rfl⟩⟩

def recordThrough (step : σ → α → Option σ) (s : σ × List ε) (a : α) :
    Option (σ × List ε) :=
  (step s.1 a).map fun t => (t, s.2 ++ record s.1 a)

theorem recorded_of_runThrough {guard : σ → α → Bool} {step : σ → α → Option σ} {record : σ → α → List ε}
    {s u : σ × List ε} {as : List α}
    (h : runThrough (fun s a => guard s.1 a) (recordThrough record step) s as = some u) :
    Run (Recorded record (Guarded (fun s a => guard s a = true) fun s a t => step s a = some t)) s as u := by
  refine (run_of_runThrough h).mono fun t a u hstep => ?_
  obtain ⟨hguard, hu⟩ := hstep
  obtain ⟨u', hu', rfl⟩ := Option.map_eq_some_iff.mp hu
  exact ⟨⟨hguard, hu'⟩, rfl⟩

theorem exists_recorded_run {guard : σ → α → Bool} {step : σ → α → Option σ} {record : σ → α → List ε}
    {s : σ × List ε} {as : List α} {P : σ → List ε → Prop} [∀ u after, Decidable (P u after)]
    (h : (runThrough (fun s a => guard s.1 a) (recordThrough record step) s as).any (fun r => P r.1 r.2) = true) :
    ∃ u after, Run (Recorded record (Guarded (fun s a => guard s a = true) fun s a t => step s a = some t)) s as
      (u, after) ∧ P u after := by
  obtain ⟨⟨u, after⟩, hu, hP⟩ := (Option.any_eq_true _ _).mp h
  exact ⟨u, after, recorded_of_runThrough hu, of_decide_eq_true hP⟩

end MautrixSignal.Lib
