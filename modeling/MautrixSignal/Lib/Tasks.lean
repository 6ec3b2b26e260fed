import Mathlib.Algebra.BigOperators.Group.List.Basic
import Mathlib.Data.List.Perm.Basic
import Mathlib.Tactic.Abel

namespace MautrixSignal.Lib

open List

variable {σ τ μ : Type*}

-- What one step of a task does: the shared state after it, how the task goes on, the tasks it starts
-- and the messages it sends.
structure Outcome (σ τ μ : Type*) where
  state : σ
  goesOn : Option τ := none
  starts : List τ := []
  sends : List μ := []

def Outcome.next (o : Outcome σ τ μ) : List τ :=
  o.goesOn.toList ++ o.starts

theorem Outcome.mem_next_of_goesOn {o : Outcome σ τ μ} {u : τ} (h : o.goesOn = some u) : u ∈ o.next :=
  mem_append_left _ (Option.mem_toList.mpr h)

-- Tasks over a shared state. One of them can be in the foreground, where it keeps its place until it
-- returns.
structure Pool (σ τ : Type*) where
  state : σ
  foreground : Option τ := none
  background : List τ := []

inductive Place
  | foreground
  | background (k : Nat)

namespace Pool

variable {place : Place} {t u : τ} {o : Outcome σ τ μ}

variable (p : Pool σ τ)

def tasks : List τ :=
  p.foreground.toList ++ p.background

def at? : Place → Option τ
  | .foreground => p.foreground
  | .background k => p.background[k]?

def resume (o : Outcome σ τ μ) : Place → Pool σ τ
  | .foreground =>
    { state := o.state, foreground := o.goesOn, background := p.background ++ o.starts }
  | .background k =>
    { state := o.state
      foreground := p.foreground
      background := p.background.eraseIdx k ++ o.goesOn.toList ++ o.starts }

theorem mem_tasks_of_at {p : Pool σ τ} (ht : p.at? place = some t) : t ∈ p.tasks := by
  cases place with
  | foreground =>
    have hfore : p.foreground = some t := ht
    simp [tasks, hfore]
  | background k =>
    have hback := ht
    exact mem_append_right _ (mem_of_getElem? hback)

theorem tasks_resume (o : Outcome σ τ μ) (ht : p.at? place = some t) :
    ∃ rest, p.tasks.Perm (t :: rest) ∧ (p.resume o place).tasks.Perm (o.next ++ rest) := by
  cases place with
  | foreground =>
    have hfore : p.foreground = some t := ht
    refine ⟨p.background, ?_, ?_⟩
    · simp [tasks, hfore]
    · simp only [Outcome.next, append_assoc]
      exact List.Perm.append_left _ perm_append_comm
  | background k =>
    have hback := ht
    obtain ⟨hk, hget⟩ := List.getElem?_eq_some_iff.mp hback
    refine ⟨p.foreground.toList ++ p.background.eraseIdx k, ?_, ?_⟩
    · have hperm := getElem_cons_eraseIdx_perm hk
      rw [hget] at hperm
      exact (List.Perm.append_left _ hperm.symm).trans perm_middle
    · have hsplit : (p.resume o (.background k)).tasks =
          (p.foreground.toList ++ p.background.eraseIdx k) ++ o.next := by
        simp [tasks, resume, Outcome.next]
      rw [hsplit]
      exact perm_append_comm

section

variable {p : Pool σ τ} (ht : p.at? place = some t)

include ht

theorem mem_tasks_resume (hu : u ∈ (p.resume o place).tasks) : u ∈ o.next ∨ u ∈ p.tasks := by
  obtain ⟨rest, hbef, hafter⟩ := tasks_resume p o ht
  rcases mem_append.mp (hafter.mem_iff.mp hu) with h | h
  · exact .inl h
  · exact .inr (hbef.mem_iff.mpr (mem_cons_of_mem _ h))

theorem next_mem_tasks_resume (hu : u ∈ o.next) : u ∈ (p.resume o place).tasks := by
  obtain ⟨rest, -, hafter⟩ := tasks_resume p o ht
  exact hafter.mem_iff.mpr (mem_append_left _ hu)

theorem stays_mem_tasks_resume (hu : u ∈ p.tasks) (hne : u ≠ t) : u ∈ (p.resume o place).tasks := by
  obtain ⟨rest, hbef, hafter⟩ := tasks_resume p o ht
  rcases mem_cons.mp (hbef.mem_iff.mp hu) with h | h
  · exact absurd h hne
  · exact hafter.mem_iff.mpr (mem_append_right _ h)

end

@[simp] theorem state_resume (o : Outcome σ τ μ) (place : Place) : (p.resume o place).state = o.state := by
  cases place <;> rfl

-- The shared state keeps an invariant, and every task has an assertion that holds where it is.
structure Annotated (inv : σ → Prop) (assertion : σ → τ → Prop) (p : Pool σ τ) : Prop where
  state : inv p.state
  task : ∀ t ∈ p.tasks, assertion p.state t

variable {inv : σ → Prop} {assertion : σ → τ → Prop}

-- One step: the invariant survives, what comes next meets its assertions, and no assertion of another
-- task is interfered with.
theorem Annotated.resume {p : Pool σ τ} (h : Annotated inv assertion p) (ht : p.at? place = some t)
    (hinv : inv o.state) (hnext : ∀ u ∈ o.next, assertion o.state u)
    (hfree : ∀ u ∈ p.tasks, assertion p.state u → assertion o.state u) :
    Annotated inv assertion (p.resume o place) := by
  refine ⟨?_, ?_⟩
  · rw [state_resume]
    exact hinv
  · intro u hu
    rw [state_resume]
    rcases mem_tasks_resume ht hu with hu | hu
    · exact hnext u hu
    · exact hfree u hu (h.task u hu)

theorem Annotated.of_tasks {p p' : Pool σ τ} (h : Annotated inv assertion p) (hstate : p'.state = p.state)
    (htasks : ∀ t ∈ p'.tasks, t ∈ p.tasks ∨ assertion p.state t) : Annotated inv assertion p' := by
  refine ⟨hstate.symm ▸ h.state, fun t ht => ?_⟩
  rw [hstate]
  rcases htasks t ht with hold | hnew
  · exact h.task t hold
  · exact hnew

def Owed (done : σ → Prop) (owes : τ → Prop) (p : Pool σ τ) : Prop :=
  done p.state ∨ ∃ t ∈ p.tasks, owes t

theorem Owed.of_tasks {done : σ → Prop} {owes : τ → Prop} {p p' : Pool σ τ} (h : Owed done owes p)
    (hstate : p'.state = p.state) (htasks : ∀ t ∈ p.tasks, t ∈ p'.tasks) : Owed done owes p' := by
  rcases h with hd | ⟨t, ht, hto⟩
  · exact .inl (hstate.symm ▸ hd)
  · exact .inr ⟨t, htasks t ht, hto⟩

theorem Owed.resume {done : σ → Prop} {owes : τ → Prop} {p : Pool σ τ} (h : Owed done owes p)
    (ht : p.at? place = some t) (hdone : done p.state → done o.state ∨ ∃ u ∈ o.next, owes u)
    (howes : owes t → done o.state ∨ ∃ u ∈ o.next, owes u) : Owed done owes (p.resume o place) := by
  have hpaid (hnew : done o.state ∨ ∃ u ∈ o.next, owes u) : Owed done owes (p.resume o place) := by
    rcases hnew with hd | ⟨u, hu, huo⟩
    · exact .inl ((state_resume p o place).symm ▸ hd)
    · exact .inr ⟨u, next_mem_tasks_resume ht hu, huo⟩
  rcases h with hd | ⟨u, hu, huo⟩
  · exact hpaid (hdone hd)
  · by_cases heq : u = t
    · exact hpaid (howes (heq ▸ huo))
    · exact .inr ⟨u, stays_mem_tasks_resume ht hu heq, huo⟩

def load (holds : τ → Bool) (p : Pool σ τ) : Nat :=
  p.tasks.countP holds

theorem load_resume (holds : τ → Bool) {p : Pool σ τ} (o : Outcome σ τ μ) (ht : p.at? place = some t) :
    (p.resume o place).load holds + (if holds t then 1 else 0) = p.load holds + o.next.countP holds := by
  obtain ⟨rest, hbef, hafter⟩ := tasks_resume p o ht
  have hold := hbef.countP_eq holds
  have hnew := hafter.countP_eq holds
  rw [countP_cons] at hold
  rw [countP_append] at hnew
  unfold load
  omega

def Exclusive (credit : σ → Nat) (holds : τ → Bool) (p : Pool σ τ) : Prop :=
  credit p.state + p.load holds ≤ 1

section Exclusive

variable {credit : σ → Nat} {holds : τ → Bool} {p p' : Pool σ τ}

theorem Exclusive.resume (h : Exclusive credit holds p) (ht : p.at? place = some t)
    (hpays : credit o.state + o.next.countP holds ≤ credit p.state + if holds t then 1 else 0) :
    Exclusive credit holds (p.resume o place) := by
  have hload := load_resume holds o ht
  unfold Exclusive at h ⊢
  rw [state_resume]
  omega

theorem Exclusive.of_tasks (h : Exclusive credit holds p) (hstate : p'.state = p.state)
    (hload : p'.load holds ≤ p.load holds) : Exclusive credit holds p' := by
  unfold Exclusive at h ⊢
  rw [hstate]
  omega

theorem Exclusive.credit_eq_zero (h : Exclusive credit holds p) (ht : t ∈ p.tasks) (hholds : holds t = true) :
    credit p.state = 0 := by
  have hpos : 0 < p.load holds := countP_pos_iff.mpr ⟨t, ht, hholds⟩
  unfold Exclusive at h
  omega

end Exclusive

section Total

variable {M : Type*} {p p' : Pool σ τ}

def total [AddCommMonoid M] (value : τ → M) (p : Pool σ τ) : M :=
  (p.tasks.map value).sum

theorem total_of_perm [AddCommMonoid M] (value : τ → M) {tasks : List τ}
    (hperm : p'.tasks.Perm (tasks ++ p.tasks)) : p'.total value = (tasks.map value).sum + p.total value := by
  unfold total
  rw [(hperm.map value).sum_eq, map_append, sum_append]

theorem total_resume [AddCommMonoid M] (value : τ → M) (o : Outcome σ τ μ) (ht : p.at? place = some t) :
    (p.resume o place).total value + value t = p.total value + (o.next.map value).sum := by
  obtain ⟨rest, hbef, hafter⟩ := tasks_resume p o ht
  have hold := (hbef.map value).sum_eq
  have hnew := (hafter.map value).sum_eq
  rw [map_cons, sum_cons] at hold
  rw [map_append, sum_append] at hnew
  unfold total
  rw [hold, hnew]
  abel

theorem balance_resume [AddCancelCommMonoid M] {value : τ → M} {before after gained : M} (ht : p.at? place = some t)
    (hstep : after + (o.next.map value).sum = before + value t + gained) :
    after + (p.resume o place).total value = before + p.total value + gained := by
  refine add_right_cancel (b := value t) ?_
  calc after + (p.resume o place).total value + value t
      = after + (o.next.map value).sum + p.total value := by
        rw [add_assoc, total_resume value o ht]
        abel
    _ = before + p.total value + gained + value t := by
        rw [hstep]
        abel

end Total

end Pool

end MautrixSignal.Lib
