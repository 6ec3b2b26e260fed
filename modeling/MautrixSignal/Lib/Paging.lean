import Mathlib.Data.List.Basic
import Mathlib.Order.Lattice

namespace MautrixSignal.Lib

open List

variable {α κ : Type*} [LinearOrder κ] {key : α → κ} {count : ℕ} {items : List α}

def Descending (key : α → κ) (items : List α) : Prop := items.Pairwise fun a b => key b ≤ key a

-- Read from the highest key down in pages, entries with the same key are on the same page: no page boundary
-- lies strictly between the two counts.
def Unsplit (key : α → κ) (count : ℕ) (items : List α) : Prop :=
  ∀ a ∈ items, ∀ k ≤ items.length,
    k * count ≤ items.countP (fun b => key a < key b) ∨ items.countP (fun b => key a ≤ key b) ≤ k * count

instance (key : α → κ) (count : ℕ) (items : List α) : Decidable (Unsplit key count items) := by
  unfold Unsplit
  infer_instance

theorem Unsplit.perm {items' : List α} (h : Unsplit key count items) (hperm : items.Perm items') :
    Unsplit key count items' := by
  intro a ha k hk
  rw [← hperm.countP_eq, ← hperm.countP_eq]
  exact h a (hperm.mem_iff.mpr ha) k (hperm.length_eq ▸ hk)

theorem le_of_mem_page (hdesc : Descending key items) {a b : α} (ha : a ∈ items.take count)
    (hb : b ∈ items.drop count) : key b ≤ key a := by
  rw [← take_append_drop count items] at hdesc
  exact (pairwise_append.mp hdesc).2.2 a ha b hb

theorem last_le_of_mem_page (hdesc : Descending key items) {a last : α} (ha : a ∈ items.take count)
    (hlast : (items.take count).getLast? = some last) : key last ≤ key a := by
  have hpage := hdesc.sublist (take_sublist count items)
  obtain ⟨before, hbef⟩ := getLast?_eq_some_iff.mp hlast
  rw [hbef] at ha hpage
  rcases mem_append.mp ha with ha | ha
  · exact (pairwise_append.mp hpage).2.2 a ha last mem_cons_self
  · obtain rfl := mem_singleton.mp ha
    exact le_refl _

theorem countP_page_add_rest (p : α → Bool) (count : ℕ) (items : List α) :
    items.countP p = (items.take count).countP p + (items.drop count).countP p := by
  rw [← countP_append, take_append_drop]

theorem countP_page_eq {p : α → Bool} (hfull : count ≤ items.length) (h : ∀ a ∈ items.take count, p a = true) :
    (items.take count).countP p = count := by
  rw [countP_eq_length.mpr h, length_take_of_le hfull]

theorem filter_eq_rest {p : α → Bool} (hpage : ∀ a ∈ items.take count, p a = false)
    (hrest : ∀ b ∈ items.drop count, p b = true) : items.filter p = items.drop count := by
  conv_lhs => rw [← take_append_drop count items]
  have hnone : (items.take count).filter p = [] := by
    apply filter_eq_nil_iff.mpr
    intro a ha
    simp [hpage a ha]
  rw [filter_append, hnone, filter_eq_self.mpr hrest, nil_append]

theorem Unsplit.lt_last (h : Unsplit key count items) (hdesc : Descending key items) (hfull : count ≤ items.length)
    {last b : α} (hlast : (items.take count).getLast? = some last) (hb : b ∈ items.drop count) : key b < key last := by
  have hmem := mem_of_getLast? hlast
  have hone := length_pos_of_mem (mem_of_mem_take hmem)
  have hboundary := h last (mem_of_mem_take hmem) 1 hone
  rw [Nat.one_mul, countP_page_add_rest _ count, countP_page_add_rest (fun b => key last ≤ key b) count] at hboundary
  -- The last entry itself keeps the first alternative from holding.
  have hnone : (items.drop count).countP (fun b => key last < key b) = 0 := by
    apply countP_eq_zero.mpr
    intro c hc
    simpa using le_of_mem_page hdesc hmem hc
  have hless : (items.take count).countP (fun b => key last < key b) < count := by
    have hne : (items.take count).countP (fun b => key last < key b) ≠ (items.take count).length := by
      intro hall
      have hself := countP_eq_length.mp hall last hmem
      simp at hself
    have hle := countP_le_length (p := fun b => decide (key last < key b)) (l := items.take count)
    rw [length_take_of_le hfull] at hne hle
    omega
  have hall : (items.take count).countP (fun b => key last ≤ key b) = count := by
    apply countP_page_eq hfull
    intro c hc
    simpa using last_le_of_mem_page hdesc hc hlast
  have hrest : (items.drop count).countP (fun b => key last ≤ key b) = 0 := by
    omega
  have hlt := countP_eq_zero.mp hrest b hb
  simpa using hlt

theorem exists_last_of_full (hcount : 0 < count) (hfull : count ≤ items.length) :
    ∃ last, (items.take count).getLast? = some last := by
  cases hlast : (items.take count).getLast? with
  | none =>
    have hlen := length_take_of_le hfull
    rw [getLast?_eq_none_iff.mp hlast, length_nil] at hlen
    omega
  | some last => exact ⟨last, rfl⟩

theorem Unsplit.drop (h : Unsplit key count items) (hdesc : Descending key items) (hcount : 0 < count)
    (hfull : count ≤ items.length) : Unsplit key count (items.drop count) := by
  intro a ha k hk
  obtain ⟨last, hlast⟩ := exists_last_of_full hcount hfull
  have hlt : ∀ c ∈ items.take count, key a < key c := by
    intro c hc
    exact lt_of_lt_of_le (h.lt_last hdesc hfull hlast ha) (last_le_of_mem_page hdesc hc hlast)
  have hlarger : (items.take count).countP (fun c => key a < key c) = count := by
    apply countP_page_eq hfull
    intro c hc
    simpa using hlt c hc
  have hatLeast : (items.take count).countP (fun c => key a ≤ key c) = count := by
    apply countP_page_eq hfull
    intro c hc
    simpa using le_of_lt (hlt c hc)
  have hnext := h a (mem_of_mem_drop ha) (k + 1) (by rw [length_drop] at hk; omega)
  rw [countP_page_add_rest _ count, countP_page_add_rest (fun c => key a ≤ key c) count, hlarger, hatLeast,
    Nat.succ_mul] at hnext
  omega

end MautrixSignal.Lib
