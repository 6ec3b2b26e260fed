import Mathlib.Logic.Basic

namespace MautrixSignal.Lib

-- A stateful program that may end with a fault, such as a panic. The state is kept at a fault.
abbrev Prog (ε σ α : Type) := EStateM ε σ α

section Faulting

variable {ε σ α β : Type} {m : Prog ε σ α} {s t : σ} {a : α} {k : α → Prog ε σ β} {b : β}

def Returns (m : Prog ε σ α) (s : σ) (a : α) (t : σ) : Prop := m s = .ok a t

def Faults (m : Prog ε σ α) (s : σ) : Prop := ∃ e t, m s = .error e t

theorem Returns.unique {t' : σ} {a' : α} (h : Returns m s a t) (h' : Returns m s a' t') : a = a' ∧ t = t' := by
  unfold Returns at h h'
  rw [h] at h'
  cases h'
  exact ⟨rfl, rfl⟩

theorem returns_or_faults (m : Prog ε σ α) (s : σ) : (∃ a t, Returns m s a t) ∨ Faults m s := by
  unfold Returns Faults
  cases m s with
  | ok a t => exact .inl ⟨a, t, rfl⟩
  | error e t => exact .inr ⟨e, t, rfl⟩

theorem not_faults_of_returns (h : Returns m s a t) : ¬ Faults m s := by
  rintro ⟨e, t', he⟩
  rw [h] at he
  cases he

@[simp] theorem returns_pure {b : α} : Returns (pure a : Prog ε σ α) s b t ↔ a = b ∧ s = t := by
  simp [Returns, pure, EStateM.pure]

@[simp] theorem faults_pure : ¬ Faults (pure a : Prog ε σ α) s := by
  simp [Faults, pure, EStateM.pure]

@[simp] theorem returns_throw {e : ε} : ¬ Returns (throw e : Prog ε σ α) s a t := by
  rintro ⟨⟩

@[simp] theorem faults_throw {e : ε} : Faults (throw e : Prog ε σ α) s :=
  ⟨e, s, rfl⟩

@[simp] theorem returns_bind {u : σ} : Returns (m >>= k) s b u ↔ ∃ a t, Returns m s a t ∧ Returns (k a) t b u := by
  simp only [Returns, bind, EStateM.bind]
  cases m s with
  | error e t => simp
  | ok a t =>
    constructor
    · intro h
      exact ⟨a, t, rfl, h⟩
    · rintro ⟨_, _, ⟨⟩, h⟩
      exact h

theorem Returns.bind {u : σ} (h : Returns m s a t) (h' : Returns (k a) t b u) : Returns (m >>= k) s b u :=
  returns_bind.mpr ⟨a, t, h, h'⟩

theorem bind_of_returns (h : Returns m s a t) : (m >>= k) s = k a t := by
  simp only [bind, EStateM.bind]
  rw [h]

theorem bind_of_error {e : ε} (h : m s = .error e t) : (m >>= k) s = .error e t := by
  simp only [bind, EStateM.bind]
  rw [h]

@[simp] theorem faults_bind : Faults (m >>= k) s ↔ Faults m s ∨ ∃ a t, Returns m s a t ∧ Faults (k a) t := by
  simp only [Faults, Returns, bind, EStateM.bind]
  cases m s with
  | error e t => simp
  | ok a t =>
    constructor
    · intro h
      exact .inr ⟨a, t, rfl, h⟩
    · rintro (⟨_, _, ⟨⟩⟩ | ⟨_, _, ⟨⟩, h⟩)
      exact h

theorem faults_bind_of_returns (h : Returns m s a t) : Faults (m >>= k) s ↔ Faults (k a) t := by
  rw [faults_bind]
  constructor
  · rintro (hm | ⟨a', t', h', hk⟩)
    · exact absurd hm (not_faults_of_returns h)
    · obtain ⟨rfl, rfl⟩ := h.unique h'
      exact hk
  · intro hk
    exact .inr ⟨a, t, h, hk⟩

theorem not_faults_bind (hm : ¬ Faults m s) (hk : ∀ a t, ¬ Faults (k a) t) : ¬ Faults (m >>= k) s := by
  rw [faults_bind]
  rintro (h | ⟨a, t, -, h⟩)
  · exact hm h
  · exact hk a t h

@[simp] theorem returns_map {f : α → β} : Returns (f <$> m) s b t ↔ ∃ a, Returns m s a t ∧ f a = b := by
  rw [← bind_pure_comp, returns_bind]
  constructor
  · rintro ⟨a, u, h, h'⟩
    obtain ⟨hb, rfl⟩ := returns_pure.mp h'
    exact ⟨a, h, hb⟩
  · rintro ⟨a, h, hb⟩
    exact ⟨a, t, h, returns_pure.mpr ⟨hb, rfl⟩⟩

@[simp] theorem faults_map {f : α → β} : Faults (f <$> m) s ↔ Faults m s := by
  rw [← bind_pure_comp, faults_bind]
  simp

@[simp] theorem returns_ite {c : Prop} [Decidable c] {n : Prog ε σ α} :
    Returns (if c then m else n) s a t ↔ if c then Returns m s a t else Returns n s a t := by
  split <;> rfl

@[simp] theorem faults_ite {c : Prop} [Decidable c] {n : Prog ε σ α} :
    Faults (if c then m else n) s ↔ if c then Faults m s else Faults n s := by
  split <;> rfl

theorem get_run (s : σ) : (get : Prog ε σ σ) s = .ok s s := rfl

@[simp] theorem returns_get {a : σ} : Returns (get : Prog ε σ σ) s a t ↔ a = s ∧ t = s := by
  constructor
  · rintro ⟨⟩
    exact ⟨rfl, rfl⟩
  · rintro ⟨rfl, rfl⟩
    rfl

@[simp] theorem faults_get : ¬ Faults (get : Prog ε σ σ) s := by
  rintro ⟨_, _, ⟨⟩⟩

@[simp] theorem returns_modify {f : σ → σ} {u : PUnit} : Returns (modify f : Prog ε σ PUnit) s u t ↔ t = f s := by
  constructor
  · rintro ⟨⟩
    rfl
  · rintro rfl
    rfl

@[simp] theorem faults_modify {f : σ → σ} : ¬ Faults (modify f : Prog ε σ PUnit) s := by
  rintro ⟨_, _, ⟨⟩⟩

def onFault (m : Prog ε σ α) (cleanup : Prog ε σ PUnit) : Prog ε σ α := fun s =>
  match m s with
  | .ok a t => .ok a t
  | .error e t =>
    match cleanup t with
    | .ok _ u => .error e u
    | .error e' u => .error e' u

@[simp] theorem returns_onFault {cleanup : Prog ε σ PUnit} : Returns (onFault m cleanup) s a t ↔ Returns m s a t := by
  unfold Returns onFault
  cases m s with
  | ok b u => rfl
  | error e u => cases hc : cleanup u <;> simp [hc]

@[simp] theorem faults_onFault {cleanup : Prog ε σ PUnit} : Faults (onFault m cleanup) s ↔ Faults m s := by
  unfold Faults onFault
  cases m s with
  | ok b u => rfl
  | error e u => cases hc : cleanup u <;> simp [hc]

end Faulting

end MautrixSignal.Lib
