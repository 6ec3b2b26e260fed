import MautrixSignal.Recipients
import Mathlib.Data.List.Permutation

namespace MautrixSignal.Recipients

open Lib

variable {first second : Recipient}

namespace Table

variable {table : Table} {aci pni : UUID} {row : Row}

theorem mem_byACIOrPNI :
    row ∈ table.byACIOrPNI aci pni ↔ row ∈ table.rows ∧
      ((aci ≠ .nil ∧ row.aci = some aci) ∨ (pni ≠ .nil ∧ row.pni = some pni)) := by
  simp [byACIOrPNI]

theorem byACI_mem (h : table.byACI aci = some row) : row ∈ table.rows ∧ row.aci = some aci :=
  selectOn_mem h

theorem byPNI_mem (h : table.byPNI pni = some row) : row ∈ table.rows ∧ row.pni = some pni :=
  selectOn_mem h

theorem byACI_eq_some (hm : row ∈ table.rows) (h : row.aci = some aci) : table.byACI aci = some row :=
  table.unique.aci.selectOn_eq hm h

theorem byPNI_eq_some (hm : row ∈ table.rows) (h : row.pni = some pni) : table.byPNI pni = some row :=
  table.unique.pni.selectOn_eq hm h

theorem eq_of_pni {row' : Row} (hm : row ∈ table.rows) (hm' : row' ∈ table.rows) (h : row.pni = some pni)
    (h' : row'.pni = some pni) : row = row' :=
  table.unique.pni.eq_of_key hm hm' h h'

theorem byACIOrPNI_nodup (table : Table) (aci pni : UUID) : (table.byACIOrPNI aci pni).Nodup := by
  have ha := table.unique.aci.filter fun row =>
    (aci ≠ .nil ∧ row.aci = some aci) ∨ (pni ≠ .nil ∧ row.pni = some pni)
  have hp := table.unique.pni.filter fun row =>
    (aci ≠ .nil ∧ row.aci = some aci) ∨ (pni ≠ .nil ∧ row.pni = some pni)
  refine (ha.and hp).imp_of_mem ?_
  intro row row' hm _ h heq
  subst heq
  rcases (mem_byACIOrPNI.mp hm).2 with ⟨_, hk⟩ | ⟨_, hk⟩ <;> simp [hk] at h

end Table

inductive Matched (table : Table) (aci pni : UUID) : List Row → Prop
  | neither (ha : table.byACI aci = none) (hp : table.byPNI pni = none) : Matched table aci pni []
  | onlyACI (row : Row) (ha : table.byACI aci = some row) (hp : table.byPNI pni = none) :
      Matched table aci pni [row]
  | onlyPNI (row : Row) (ha : table.byACI aci = none) (hp : table.byPNI pni = some row) :
      Matched table aci pni [row]
  | both (row : Row) (ha : table.byACI aci = some row) (hp : table.byPNI pni = some row) :
      Matched table aci pni [row]
  | aciFirst (row row' : Row) (hne : row ≠ row') (ha : table.byACI aci = some row)
      (hp : table.byPNI pni = some row') : Matched table aci pni [row, row']
  | pniFirst (row row' : Row) (hne : row ≠ row') (ha : table.byACI aci = some row)
      (hp : table.byPNI pni = some row') : Matched table aci pni [row', row]

theorem matched_of_query (order : RowOrder) (table : Table) {aci pni : UUID} (ha : aci ≠ .nil)
    (hp : pni ≠ .nil) : Matched table aci pni (order.arrange (table.byACIOrPNI aci pni)) := by
  have hperm := order.perm (table.byACIOrPNI aci pni)
  have hnodup := table.byACIOrPNI_nodup aci pni
  have hmem : ∀ row, row ∈ table.byACIOrPNI aci pni ↔
      table.byACI aci = some row ∨ table.byPNI pni = some row := by
    intro row
    rw [Table.mem_byACIOrPNI]
    constructor
    · rintro ⟨hm, ⟨_, hk⟩ | ⟨_, hk⟩⟩
      · exact .inl (Table.byACI_eq_some hm hk)
      · exact .inr (Table.byPNI_eq_some hm hk)
    · rintro (h | h)
      · exact ⟨(Table.byACI_mem h).1, .inl ⟨ha, (Table.byACI_mem h).2⟩⟩
      · exact ⟨(Table.byPNI_mem h).1, .inr ⟨hp, (Table.byPNI_mem h).2⟩⟩
  -- The query's rows are a duplicate-free list with known members.
  have hsame : ∀ rows : List Row, rows.Nodup →
      (∀ row, row ∈ rows ↔ table.byACI aci = some row ∨ table.byPNI pni = some row) →
      (order.arrange (table.byACIOrPNI aci pni)).Perm rows := by
    intro rows hn hr
    refine hperm.trans ((List.perm_ext_iff_of_nodup hnodup hn).mpr ?_)
    intro row
    rw [hmem, hr]
  cases hra : table.byACI aci with
  | none =>
    cases hrp : table.byPNI pni with
    | none =>
      have h := hsame [] List.nodup_nil (by simp [hra, hrp])
      rw [List.perm_nil.mp h]
      exact .neither hra hrp
    | some row =>
      have h := hsame [row] (List.nodup_singleton _) (by simp [hra, hrp, eq_comm])
      rw [List.perm_singleton.mp h]
      exact .onlyPNI row hra hrp
  | some row =>
    cases hrp : table.byPNI pni with
    | none =>
      have h := hsame [row] (List.nodup_singleton _) (by simp [hra, hrp, eq_comm])
      rw [List.perm_singleton.mp h]
      exact .onlyACI row hra hrp
    | some row' =>
      by_cases hne : row = row'
      · subst hne
        have h := hsame [row] (List.nodup_singleton _) (by simp [hra, hrp, eq_comm])
        rw [List.perm_singleton.mp h]
        exact .both row hra hrp
      · have h := hsame [row, row'] (by simp [hne]) (by simp [hra, hrp, eq_comm])
        rcases List.perm_pair.mp h with he | he
        · rw [he]; exact .aciFirst row row' hne hra hrp
        · rw [he]; exact .pniFirst row row' hne hra hrp

theorem Matched.eq_or_swap {table : Table} {aci pni : UUID} {rows rows' : List Row}
    (h : Matched table aci pni rows) (h' : Matched table aci pni rows') :
    rows = rows' ∨ ∃ row row', row ≠ row' ∧ table.byACI aci = some row ∧
      table.byPNI pni = some row' ∧
      ((rows = [row, row'] ∧ rows' = [row', row]) ∨ (rows = [row', row] ∧ rows' = [row, row'])) := by
  cases h <;> cases h' <;> simp_all

theorem combine_comm (hf : first.aci ≠ .nil) (hs : second.aci = .nil) :
    combine second first = combine first second := by
  simp [combine, hf, hs]

theorem combine_aci (hf : first.aci ≠ .nil) : (combine first second).aci = first.aci := by
  simp [combine, hf]

theorem combine_pni (hf : first.aci ≠ .nil) : (combine first second).pni = second.pni := by
  simp [combine, hf]

theorem combine_aci_ne_nil (h : first.aci ≠ .nil ∨ second.aci ≠ .nil) : (combine first second).aci ≠ .nil := by
  by_cases hf : first.aci = .nil
  · have hs := h.resolve_left (fun hne => hne hf)
    simpa [combine, hf] using hs
  · rwa [combine_aci hf]

theorem mergeRecipients_congr (faults : Faults) (s : Store) (updater : Updater) {first' second' : Recipient}
    (h : combine first second = combine first' second') :
    mergeRecipients faults s first second updater = mergeRecipients faults s first' second' updater := by
  simp [mergeRecipients, h]

end MautrixSignal.Recipients
