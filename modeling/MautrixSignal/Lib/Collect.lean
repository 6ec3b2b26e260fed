import MautrixSignal.Lib.Checks
import Mathlib.Data.List.Basic

namespace MautrixSignal.Lib

variable {α β ε : Type*} {f : α → Except ε (Option β)} {as : List α} {bs : List β}

-- A loop that appends what each entry yields, passes over the entries that yield nothing and stops at the
-- first error.
def collect (f : α → Except ε (Option β)) : List α → Except ε (List β)
  | [] => .ok []
  | a :: as => do
    let b ← f a
    let bs ← collect f as
    return b.toList ++ bs

def yielded (f : α → Except ε (Option β)) (a : α) : Option β :=
  match f a with
  | .ok b => b
  | .error _ => none

theorem yielded_of_ok {a : α} {b : Option β} (h : f a = .ok b) : yielded f a = b := by
  simp [yielded, h]

theorem yielded_eq_some_iff {a : α} {b : β} : yielded f a = some b ↔ f a = .ok (some b) := by
  unfold yielded
  cases f a with
  | error e => simp
  | ok c => simp

theorem collect_cons {a : α} :
    collect f (a :: as) = .ok bs ↔ ∃ b bs', f a = .ok b ∧ collect f as = .ok bs' ∧ b.toList ++ bs' = bs := by
  simp only [collect, bind_eq_ok_iff, pure, Except.pure, Except.ok.injEq]
  exact exists_congr fun b => exists_and_left.symm

theorem collect_eq_ok_iff : collect f as = .ok bs ↔ (∀ a ∈ as, ∃ b, f a = .ok b) ∧ bs = as.filterMap (yielded f) := by
  induction as generalizing bs with
  | nil => simp [collect]
  | cons a as ih =>
    have hyield (b : Option β) (hb : f a = .ok b) :
        (a :: as).filterMap (yielded f) = b.toList ++ as.filterMap (yielded f) := by
      rw [List.filterMap_cons, yielded_of_ok hb]
      cases b <;> rfl
    simp only [collect_cons, ih, List.forall_mem_cons]
    constructor
    · rintro ⟨b, bs', hb, ⟨hall, rfl⟩, rfl⟩
      exact ⟨⟨⟨b, hb⟩, hall⟩, (hyield b hb).symm⟩
    · rintro ⟨⟨⟨b, hb⟩, hall⟩, rfl⟩
      exact ⟨b, _, hb, ⟨hall, rfl⟩, (hyield b hb).symm⟩

theorem mem_of_collect (h : collect f as = .ok bs) {b : β} : b ∈ bs ↔ ∃ a ∈ as, f a = .ok (some b) := by
  obtain ⟨-, rfl⟩ := collect_eq_ok_iff.mp h
  simp [yielded_eq_some_iff]

theorem collect_append {as' : List α} {bs' : List β} (h : collect f as = .ok bs)
    (h' : collect f as' = .ok bs') : collect f (as ++ as') = .ok (bs ++ bs') := by
  obtain ⟨hall, rfl⟩ := collect_eq_ok_iff.mp h
  obtain ⟨hall', rfl⟩ := collect_eq_ok_iff.mp h'
  refine collect_eq_ok_iff.mpr ⟨?_, List.filterMap_append.symm⟩
  intro a ha
  rcases List.mem_append.mp ha with ha | ha
  · exact hall a ha
  · exact hall' a ha

-- One loop reads back what another one wrote.
theorem collect_collect {γ : Type*} {g : Option β → Except ε (Option γ)} {k : α → γ}
    (h : ∀ a ∈ as, ∃ b, f a = .ok (some b) ∧ g (some b) = .ok (some (k a))) :
    ∃ bs, collect f as = .ok bs ∧ collect g (bs.map some) = .ok (as.map k) := by
  induction as with
  | nil => exact ⟨[], rfl, rfl⟩
  | cons a as ih =>
    obtain ⟨b, hb, hc⟩ := h a List.mem_cons_self
    obtain ⟨bs, hbs, hcs⟩ := ih fun a' ha' => h a' (List.mem_cons_of_mem a ha')
    exact ⟨b :: bs, collect_cons.mpr ⟨_, _, hb, hbs, rfl⟩, collect_cons.mpr ⟨_, _, hc, hcs, rfl⟩⟩

theorem collect_eq_filterMap {g : α → Option β} (h : ∀ a ∈ as, f a = .ok (g a)) :
    collect f as = .ok (as.filterMap g) := by
  refine collect_eq_ok_iff.mpr ⟨fun a ha => ⟨g a, h a ha⟩, ?_⟩
  apply List.filterMap_congr
  intro a ha
  exact (yielded_of_ok (h a ha)).symm

theorem exists_collect {ι κ : Type*} {entry : ι → α} {key : β → κ} {k : ι → κ} {is : List ι}
    (h : ∀ i ∈ is, ∃ b, f (entry i) = .ok (some b) ∧ key b = k i) :
    ∃ bs, collect f (is.map entry) = .ok bs ∧ bs.map key = is.map k := by
  induction is with
  | nil => exact ⟨[], rfl, rfl⟩
  | cons i is ih =>
    obtain ⟨b, hb, hkey⟩ := h i List.mem_cons_self
    obtain ⟨bs, hbs, hkeys⟩ := ih fun j hj => h j (List.mem_cons_of_mem i hj)
    exact ⟨b :: bs, collect_cons.mpr ⟨_, _, hb, hbs, rfl⟩, by rw [List.map_cons, List.map_cons, hkey, hkeys]⟩

end MautrixSignal.Lib
