import MautrixSignal.Lib.Collect
import Mathlib.Data.List.Nodup

namespace MautrixSignal.Lib

open List

variable {α β ε : Type*} {p : α → Bool} {f : α → α} {k : α → β} {as : List α}

def updateFirst (p : α → Bool) (f : α → α) : List α → List α
  | [] => []
  | a :: as => if p a then f a :: as else a :: updateFirst p f as

theorem map_updateFirst {p' : β → Bool} {f' : β → β} (hp : ∀ a, p a = p' (k a)) (hf : ∀ a, k (f a) = f' (k a))
    (as : List α) : (updateFirst p f as).map k = updateFirst p' f' (as.map k) := by
  induction as with
  | nil => rfl
  | cons a as ih =>
    simp only [updateFirst, map_cons, ← hp a]
    split
    · rw [map_cons, hf]
    · rw [map_cons, ih]

theorem map_updateFirst_of_eq (hf : ∀ a, k (f a) = k a) (as : List α) : (updateFirst p f as).map k = as.map k := by
  induction as with
  | nil => rfl
  | cons a as ih =>
    simp only [updateFirst]
    split
    · rw [map_cons, map_cons, hf]
    · rw [map_cons, map_cons, ih]

theorem updateFirst_append (h : ∃ a ∈ as, p a = true) (bs : List α) :
    updateFirst p f (as ++ bs) = updateFirst p f as ++ bs := by
  induction as with
  | nil =>
    obtain ⟨a, ha, -⟩ := h
    cases ha
  | cons a as ih =>
    simp only [cons_append, updateFirst]
    by_cases hpa : p a = true
    · simp [hpa]
    have htail : ∃ b ∈ as, p b = true := by
      obtain ⟨b, hb, hpb⟩ := h
      rcases mem_cons.mp hb with rfl | hb
      · exact absurd hpb hpa
      · exact ⟨b, hb, hpb⟩
    simp [hpa, ih htail]

theorem updateFirst_eq_map [DecidableEq β] {key : β} (h : (as.map k).Nodup) :
    updateFirst (fun a => k a = key) f as = as.map fun a => if k a = key then f a else a := by
  induction as with
  | nil => rfl
  | cons a as ih =>
    obtain ⟨hnotMem, hnodup⟩ := nodup_cons.mp h
    simp only [updateFirst, map_cons, decide_eq_true_eq]
    split
    · rename_i hkey
      have hrest : as.map (fun b => if k b = key then f b else b) = as := by
        conv_rhs => rw [← map_id as]
        apply map_congr_left
        intro b hb
        rw [if_neg]
        · rfl
        · intro hkey'
          apply hnotMem
          rw [hkey, ← hkey']
          exact mem_map_of_mem hb
      rw [hrest]
    · rw [ih hnodup]

theorem forall_updateFirst {P : α → Prop} (h : ∀ a ∈ as, P a) (hf : ∀ a, P a → P (f a)) :
    ∀ a ∈ updateFirst p f as, P a := by
  induction as with
  | nil => exact h
  | cons a as ih =>
    obtain ⟨ha, has⟩ := forall_mem_cons.mp h
    rw [updateFirst]
    split
    · exact forall_mem_cons.mpr ⟨hf a ha, has⟩
    · exact forall_mem_cons.mpr ⟨ha, ih has⟩

theorem find?_eq_of_nodup [DecidableEq β] {k : α → Option β} (h : (as.filterMap k).Nodup) {a : α}
    (ha : a ∈ as) {key : β} (hkey : k a = some key) : as.find? (fun b => k b = some key) = some a := by
  induction as with
  | nil => cases ha
  | cons b as ih =>
    rcases mem_cons.mp ha with rfl | ha
    · simp [hkey]
    have hne : k b ≠ some key := by
      intro hb
      rw [filterMap_cons_some hb] at h
      exact (nodup_cons.mp h).1 (mem_filterMap.mpr ⟨a, ha, hkey⟩)
    have htail : (as.filterMap k).Nodup := by
      cases hb : k b with
      | none => rwa [filterMap_cons_none hb] at h
      | some key' =>
        rw [filterMap_cons_some hb] at h
        exact (nodup_cons.mp h).2
    simp [hne, ih htail ha]

-- A loop that reads entries one by one reads a filtered list as the filtered result.
theorem collect_filter {f : α → Except ε (Option β)} {bs : List β} {keep : α → Bool} {keep' : β → Bool}
    (h : collect f as = .ok bs) (hkeep : ∀ a ∈ as, ∀ b, f a = .ok (some b) → keep a = keep' b) :
    collect f (as.filter keep) = .ok (bs.filter keep') := by
  obtain ⟨hall, rfl⟩ := collect_eq_ok_iff.mp h
  refine collect_eq_ok_iff.mpr ⟨fun a ha => hall a (mem_of_mem_filter ha), ?_⟩
  rw [filterMap_filter, filter_filterMap]
  refine filterMap_congr fun a ha => ?_
  obtain ⟨b, hb⟩ := hall a ha
  cases b with
  | none => simp [yielded_of_ok hb]
  | some b => simp [yielded_of_ok hb, hkeep a ha b hb, Option.filter]

theorem collect_updateFirst {f : α → Except ε (Option β)} {bs : List β} {u : α → α} {p' : β → Bool}
    {u' : β → β} (h : collect f as = .ok bs)
    (hsome : ∀ a ∈ as, ∀ b, f a = .ok (some b) → p a = p' b ∧ f (u a) = .ok (some (u' b)))
    (hnone : ∀ a ∈ as, f a = .ok none → p a = false) : collect f (updateFirst p u as) = .ok (updateFirst p' u' bs) := by
  induction as generalizing bs with
  | nil =>
    cases h
    rfl
  | cons a as ih =>
    obtain ⟨b, bs, hb, hrest, rfl⟩ := collect_cons.mp h
    have hcollect := ih hrest (fun x hx => hsome x (mem_cons_of_mem a hx))
      (fun x hx => hnone x (mem_cons_of_mem a hx))
    cases b with
    | none =>
      rw [updateFirst, hnone a mem_cons_self hb]
      exact collect_cons.mpr ⟨none, _, hb, hcollect, rfl⟩
    | some b =>
      obtain ⟨hpa, hua⟩ := hsome a mem_cons_self b hb
      cases hp : p a with
      | true =>
        simp only [updateFirst, hp, Option.toList_some, singleton_append, ← hpa]
        exact collect_cons.mpr ⟨_, _, hua, hrest, rfl⟩
      | false =>
        simp only [updateFirst, hp, Option.toList_some, singleton_append, ← hpa]
        exact collect_cons.mpr ⟨_, _, hb, hcollect, rfl⟩

end MautrixSignal.Lib
