import MautrixSignal.Lib.Faulting

namespace MautrixSignal.Lib

variable {ε σ α β γ : Type}

section Keeping

def finalState (m : Prog ε σ α) (s : σ) : σ :=
  match m s with
  | .ok _ t => t
  | .error _ t => t

theorem finalState_of_returns {m : Prog ε σ α} {s t : σ} {a : α} (h : Returns m s a t) : finalState m s = t := by
  rw [finalState, h]

theorem finalState_of_error {m : Prog ε σ α} {s t : σ} {e : ε} (h : m s = .error e t) : finalState m s = t := by
  rw [finalState, h]

def KeepsView (view : σ → γ) (m : Prog ε σ α) : Prop := ∀ s, view (finalState m s) = view s

abbrev modifyThen (write : σ → σ) (m : Prog ε σ α) : Prog ε σ α := do
  modify write
  m

namespace KeepsView

variable {view : σ → γ} {m : Prog ε σ α}

theorem pure (a : α) : KeepsView view (pure a : Prog ε σ α) := fun _ => rfl

theorem throw (e : ε) : KeepsView view (throw e : Prog ε σ α) := fun _ => rfl

theorem modify {f : σ → σ} (h : ∀ s, view (f s) = view s) : KeepsView view (modify f : Prog ε σ PUnit) := h

theorem get : KeepsView view (get : Prog ε σ σ) := fun _ => rfl

theorem bind {k : α → Prog ε σ β} (hm : KeepsView view m) (hk : ∀ a, KeepsView view (k a)) :
    KeepsView view (m >>= k) := by
  intro s
  have hfirst := hm s
  unfold finalState at hfirst ⊢
  simp only [Bind.bind, EStateM.bind]
  cases hrun : m s with
  | error e t =>
    rw [hrun] at hfirst
    exact hfirst
  | ok a t =>
    rw [hrun] at hfirst
    exact (hk a t).trans hfirst

theorem ite {c : Prop} [Decidable c] {n : Prog ε σ α} (hm : KeepsView view m) (hn : KeepsView view n) :
    KeepsView view (if c then m else n) := by
  split
  · exact hm
  · exact hn

theorem of_returns (h : KeepsView view m) {s t : σ} {a : α} (hret : Returns m s a t) : view t = view s := by
  rw [← finalState_of_returns hret]
  exact h s

theorem of_error (h : KeepsView view m) {s t : σ} {e : ε} (herr : m s = .error e t) : view t = view s := by
  rw [← finalState_of_error herr]
  exact h s

theorem after_modify (h : KeepsView view m) (write : σ → σ) (s : σ) :
    view (finalState (Lib.modifyThen write m) s) = view (write s) := h _

end KeepsView

end Keeping

section Transaction

-- A transaction of a database. If the program or the commit fails, the tables of the saved state are put into the
-- later one, and everything else stays as the program left it.
def transact (restore : σ → σ → σ) (beginError commitError : Option ε) (body : Prog ε σ PUnit) :
    Prog ε σ PUnit := fun s =>
  match beginError with
  | some e => .error e s
  | none =>
    match body s with
    | .error e t => .error e (restore s t)
    | .ok _ t =>
      match commitError with
      | some e => .error e (restore s t)
      | none => .ok () t

variable {restore : σ → σ → σ} {beginError commitError : Option ε} {body : Prog ε σ PUnit} {s t : σ} {e : ε}

theorem transact_error (h : transact restore beginError commitError body s = .error e t) :
    t = s ∨ (beginError = none ∧ t = restore s (finalState body s) ∧
      (Faults body s ∨ commitError.isSome = true)) := by
  unfold transact at h
  cases beginError with
  | some e' =>
    cases h
    exact .inl rfl
  | none =>
    right
    unfold finalState
    cases hbody : body s with
    | error e' t' =>
      rw [hbody] at h
      cases h
      exact ⟨rfl, rfl, .inl ⟨_, _, hbody⟩⟩
    | ok _ t' =>
      rw [hbody] at h
      cases commitError with
      | none => cases h
      | some e' =>
        cases h
        exact ⟨rfl, rfl, .inr rfl⟩

theorem transact_of_body (hbegin : beginError = none) (h : body s = .error e t) :
    transact restore beginError commitError body s = .error e (restore s t) := by
  unfold transact
  rw [hbegin]
  rw [h]

theorem transact_of_commit (hbegin : beginError = none) (h : Returns body s () t) (hcom : commitError = some e) :
    transact restore beginError commitError body s = .error e (restore s t) := by
  unfold transact
  rw [hbegin, hcom]
  rw [h]

end Transaction

end MautrixSignal.Lib
