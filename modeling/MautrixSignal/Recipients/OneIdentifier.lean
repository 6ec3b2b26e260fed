import MautrixSignal.Recipients.BlockCache

namespace MautrixSignal.Recipients

open Lib

-- LoadAndUpdateRecipient outside of a transaction, with an ACI or a PNI but not both.

section OnlyACI

variable (order : RowOrder) (faults : Faults) (s : Store) {aci : UUID} (updater : Updater)

variable (table : Table)

def recipientOf (aci : UUID) : Recipient :=
  ((table.byACI aci).map scanRecipient).getD { aci := aci, pni := .nil }

def Faults.Completes : Prop :=
  faults.beginTxn = false ∧ faults.select = false ∧ faults.upsert = false ∧ faults.commit = false

instance (faults : Faults) : Decidable faults.Completes :=
  inferInstanceAs (Decidable (_ ∧ _ ∧ _ ∧ _))

def Writes (aci : UUID) (updater : Updater) : Prop :=
  (updater.run (recipientOf table aci)).2 = .ok true ∨
    ((updater.run (recipientOf table aci)).2 = .ok false ∧ table.byACI aci = none)

instance (table : Table) (aci : UUID) (updater : Updater) : Decidable (Writes table aci updater) :=
  inferInstanceAs (Decidable (_ ∨ _))

theorem recipientOf_aci (aci : UUID) : (recipientOf table aci).aci = aci := by
  unfold recipientOf
  cases hrow : table.byACI aci with
  | none => rfl
  | some row => exact scanRecipient_aci hrow

theorem updated_aci (aci : UUID) (updater : Updater) : (updater.run (recipientOf table aci)).1.aci = aci :=
  (updater.keeps_aci _).trans (recipientOf_aci table aci)

theorem fill_onlyACI {r : Recipient} (ha : aci ≠ .nil) (hr : r.aci = aci) : r.fill aci .nil = r := by
  subst hr
  simp [Recipient.fill]

theorem pniFree_updated (aci : UUID) (updater : Updater) : PNIFree table (updater.run (recipientOf table aci)).1 := by
  intro row hm hother hpni hsame
  rw [updated_aci] at hother
  rw [updater.keeps_pni] at hpni hsame
  unfold recipientOf at hpni hsame
  cases hrow : table.byACI aci with
  | none =>
    rw [hrow] at hpni
    exact hpni rfl
  | some found =>
    rw [hrow] at hpni hsame
    obtain ⟨hfound, haci⟩ := Table.byACI_mem hrow
    have hpniFound := Row.pni_of_scanned hpni
    have heq := Table.eq_of_pni hm hfound hsame hpniFound
    exact hother (heq ▸ haci)

theorem updateSingle_error {text : String} (h : (updater.run (recipientOf s.table aci)).2 = .error text) :
    updateSingle faults s aci .nil (s.table.byACI aci) updater =
      ⟨s, some (updater.run (recipientOf s.table aci)).1,
        some (.wrapped "failed to run updater function" (.updater text)), some (recipientOf s.table aci)⟩ := by
  unfold recipientOf at h ⊢
  simp [updateSingle, h]

section

variable (ha : aci ≠ .nil)

include ha

theorem updateSingle_ok {changed : Bool}
    (h : (updater.run (recipientOf s.table aci)).2 = .ok changed) :
    updateSingle faults s aci .nil (s.table.byACI aci) updater =
      if changed = true ∨ s.table.byACI aci = none then
        ⟨(s.storeRecipient faults (updater.run (recipientOf s.table aci)).1).1,
          some (updater.run (recipientOf s.table aci)).1,
          (s.storeRecipient faults (updater.run (recipientOf s.table aci)).1).2.map
            (.wrapped "failed to store updated recipient row"),
          some (recipientOf s.table aci)⟩
      else ⟨s, some (updater.run (recipientOf s.table aci)).1, none, some (recipientOf s.table aci)⟩ := by
  have hout := updated_aci s.table aci updater
  have hdelete : deleteOldPNIRow faults s aci (updater.run (recipientOf s.table aci)).1 = (s, none) := by
    simp [deleteOldPNIRow, hout]
  have hlacks : ¬(updater.run (recipientOf s.table aci)).1.lacks aci .nil := by
    simp [Recipient.lacks, hout]
  have hfill := fill_onlyACI ha hout
  unfold recipientOf at h hdelete hlacks hfill ⊢
  simp only [updateSingle, h, hdelete, hlacks, hfill, false_or]
  generalize s.storeRecipient faults _ = stored
  obtain ⟨s', err⟩ := stored
  cases err with
  | none => rfl
  | some err => rfl

theorem updateSingle_reads :
    (updateSingle faults s aci .nil (s.table.byACI aci) updater).handed = some (recipientOf s.table aci) ∧
    (updateSingle faults s aci .nil (s.table.byACI aci) updater).recipient =
      some (updater.run (recipientOf s.table aci)).1 := by
  cases hrun : (updater.run (recipientOf s.table aci)).2 with
  | error text =>
    rw [updateSingle_error faults s updater hrun]
    exact ⟨rfl, rfl⟩
  | ok changed =>
    rw [updateSingle_ok faults s updater ha hrun]
    split <;> exact ⟨rfl, rfl⟩

theorem updateSingle_keeps (hwrites : ¬Writes s.table aci updater) :
    (updateSingle faults s aci .nil (s.table.byACI aci) updater).store = s := by
  cases hrun : (updater.run (recipientOf s.table aci)).2 with
  | error text => rw [updateSingle_error faults s updater hrun]
  | ok changed =>
    have hcond : ¬(changed = true ∨ s.table.byACI aci = none) := by
      rintro (rfl | hnone)
      · exact hwrites (.inl hrun)
      · cases changed with
        | true => exact hwrites (.inl hrun)
        | false => exact hwrites (.inr ⟨hrun, hnone⟩)
    rw [updateSingle_ok faults s updater ha hrun, if_neg hcond]

theorem updateSingle_writes (hwrites : Writes s.table aci updater) :
    (∃ table, s.table.upsertACI (updater.run (recipientOf s.table aci)).1 = some table ∧
      (faults.upsert = false →
        (updateSingle faults s aci .nil (s.table.byACI aci) updater).store.table = table ∧
        (updateSingle faults s aci .nil (s.table.byACI aci) updater).err = none)) ∧
    (faults.upsert = true → (updateSingle faults s aci .nil (s.table.byACI aci) updater).err.isSome) := by
  have hnil : (updater.run (recipientOf s.table aci)).1.aci ≠ .nil := by
    rw [updated_aci]
    exact ha
  obtain ⟨table, htable⟩ := upsertACI_ok (pniFree_updated s.table aci updater)
  have hwritten : ∃ changed, (updater.run (recipientOf s.table aci)).2 = .ok changed ∧
      (changed = true ∨ s.table.byACI aci = none) := by
    rcases hwrites with hrun | ⟨hrun, hnone⟩
    · exact ⟨true, hrun, .inl rfl⟩
    · exact ⟨false, hrun, .inr hnone⟩
  obtain ⟨changed, hrun, hcond⟩ := hwritten
  rw [updateSingle_ok faults s updater ha hrun, if_pos hcond]
  simp only [Store.storeRecipient, hnil, ne_eq, htable]
  refine ⟨⟨table, rfl, fun hups => ?_⟩, fun hups => ?_⟩
  · rw [hups]
    exact ⟨rfl, rfl⟩
  · rw [hups]
    rfl

theorem loadAndUpdateRecipient_onlyACI :
    loadAndUpdateRecipient order faults false s aci .nil updater =
      cacheResult (doTxn false faults s fun s => loadAndUpdateInTxn order faults s aci .nil updater) := by
  rw [loadAndUpdateRecipient, if_neg (fun h => ha h.1)]

theorem loadAndUpdateInTxn_onlyACI (hsel : faults.select = false) :
    loadAndUpdateInTxn order faults s aci .nil updater =
      updateSingle faults s aci .nil (s.table.byACI aci) updater :=
  loadAndUpdateInTxn_single order faults s updater _ hsel (matchingRows_onlyACI order s.table ha)

end

theorem cacheResult_handed (out : Outcome) : (cacheResult out).handed = out.handed := by
  unfold cacheResult
  split
  · split <;> rfl
  · rfl

theorem load_reads (ha : aci ≠ .nil) (hbegin : faults.beginTxn = false) (hsel : faults.select = false) :
    (loadAndUpdateRecipient order faults false s aci .nil updater).handed = some (recipientOf s.table aci) ∧
    (loadAndUpdateRecipient order faults false s aci .nil updater).recipient =
      some (updater.run (recipientOf s.table aci)).1 := by
  have hreads := updateSingle_reads faults s updater ha
  rw [loadAndUpdateRecipient_onlyACI order faults s updater ha, cacheResult_handed, cacheResult_recipient]
  simp only [doTxn, hbegin, Bool.false_eq_true, if_false, loadAndUpdateInTxn_onlyACI order faults s updater ha hsel]
  split
  · exact hreads
  · split <;> exact hreads

theorem load_kept (ha : aci ≠ .nil) (hkept : ¬(faults.Completes ∧ Writes s.table aci updater)) :
    (loadAndUpdateRecipient order faults false s aci .nil updater).store.table = s.table := by
  rw [loadAndUpdateRecipient_onlyACI order faults s updater ha, cacheResult_table]
  simp only [doTxn, Bool.false_eq_true, if_false]
  by_cases hbegin : faults.beginTxn = true
  · rw [if_pos hbegin]
  rw [if_neg hbegin]
  by_cases hsel : faults.select = true
  · simp [loadAndUpdateInTxn, hsel, Store.rollback]
  rw [loadAndUpdateInTxn_onlyACI order faults s updater ha (Bool.eq_false_iff.mpr hsel)]
  -- A failure undoes the changes, so that only a commit could have written anything.
  by_cases herr : (updateSingle faults s aci .nil (s.table.byACI aci) updater).err.isSome
  · rw [if_pos herr]
    rfl
  rw [if_neg herr]
  by_cases hcom : faults.commit = true
  · rw [if_pos hcom]
    rfl
  rw [if_neg hcom]
  by_cases hwrites : Writes s.table aci updater
  · have hups : faults.upsert ≠ true := fun h => herr ((updateSingle_writes faults s updater ha hwrites).2 h)
    exact absurd ⟨⟨Bool.eq_false_iff.mpr hbegin, Bool.eq_false_iff.mpr hsel, Bool.eq_false_iff.mpr hups,
      Bool.eq_false_iff.mpr hcom⟩, hwrites⟩ hkept
  · rw [updateSingle_keeps faults s updater ha hwrites]

theorem load_saved (ha : aci ≠ .nil) (hcomp : faults.Completes) (hwrites : Writes s.table aci updater) :
    s.table.upsertACI (updater.run (recipientOf s.table aci)).1 =
      some (loadAndUpdateRecipient order faults false s aci .nil updater).store.table := by
  obtain ⟨hbegin, hsel, hups, hcom⟩ := hcomp
  obtain ⟨⟨table, htable, hstored⟩, -⟩ := updateSingle_writes faults s updater ha hwrites
  obtain ⟨hstore, herr⟩ := hstored hups
  rw [loadAndUpdateRecipient_onlyACI order faults s updater ha, cacheResult_table, htable]
  simp [doTxn, hbegin, hcom, loadAndUpdateInTxn_onlyACI order faults s updater ha hsel, herr, hstore]

theorem byACI_upsertACI {table table' : Table} {r : Recipient} (h : table.upsertACI r = some table') (aci : UUID) :
    table'.byACI aci = if aci = r.aci then some (Table.aciColumns r) else table.byACI aci := by
  unfold Table.byACI
  rw [ofRows?_rows h, selectOn_upsertOn]
  · by_cases heq : aci = r.aci
    · rw [if_pos heq, if_pos heq]
      cases hrow : selectOn Row.aci r.aci table.rows with
      | none => rfl
      | some row =>
        have haci := (selectOn_mem hrow).2
        simp only [Option.map_some, haci]
        rfl
    · rw [if_neg heq, if_neg heq]
  · exact fun _ => rfl
  · rfl

theorem byACI_load (ha : aci ≠ .nil) (other : UUID) :
    (loadAndUpdateRecipient order faults false s aci .nil updater).store.table.byACI other =
      if other = aci ∧ faults.Completes ∧ Writes s.table aci updater then
        some (Table.aciColumns (updater.run (recipientOf s.table aci)).1)
      else s.table.byACI other := by
  by_cases hsaves : faults.Completes ∧ Writes s.table aci updater
  · have hsaved := byACI_upsertACI (load_saved order faults s updater ha hsaves.1 hsaves.2) other
    rw [updated_aci] at hsaved
    rw [hsaved]
    exact if_congr (iff_self_and.mpr fun _ => hsaves) rfl rfl
  · rw [load_kept order faults s updater ha hsaves, if_neg (fun h => hsaves h.2)]

end OnlyACI

theorem matchingRows_onlyPNI (order : RowOrder) (table : Table) (pni : UUID) :
    matchingRows order table .nil pni = (table.byPNI pni).toList := by
  simp [matchingRows]

theorem load_onlyPNI_kept (order : RowOrder) (faults : Faults) (s : Store) {pni : UUID} (updater : Updater)
    {row : Row} (hp : pni ≠ .nil) (hrow : s.table.byPNI pni = some row)
    (hrun : (updater.run (scanRecipient row)).2 ≠ .ok true) :
    (loadAndUpdateRecipient order faults false s .nil pni updater).store.table = s.table := by
  have hpni : (updater.run (scanRecipient row)).1.pni = pni :=
    (updater.keeps_pni _).trans (scanRecipient_pni hrow)
  have hsingle : (updateSingle faults s .nil pni (some row) updater).store = s := by
    have hdelete : deleteOldPNIRow faults s .nil (updater.run (scanRecipient row)).1 = (s, none) := by
      simp [deleteOldPNIRow]
    have hlacks : ¬(updater.run (scanRecipient row)).1.lacks .nil pni := by
      simp [Recipient.lacks, hpni]
    simp only [updateSingle, Option.map_some, Option.getD_some, hdelete, hlacks, reduceCtorEq, or_false]
    cases hres : (updater.run (scanRecipient row)).2 with
    | error text => rfl
    | ok changed =>
      cases changed with
      | true => exact absurd hres hrun
      | false => simp only [Bool.false_eq_true, if_false]
  rw [loadAndUpdateRecipient, if_neg (fun h => hp h.2), cacheResult_table]
  simp only [doTxn, Bool.false_eq_true, if_false]
  by_cases hbegin : faults.beginTxn = true
  · rw [if_pos hbegin]
  rw [if_neg hbegin]
  have htable : (loadAndUpdateInTxn order faults s .nil pni updater).store = s := by
    by_cases hsel : faults.select = true
    · simp [loadAndUpdateInTxn, hsel]
    · have hrows : matchingRows order s.table .nil pni = (some row).toList := by
        rw [matchingRows_onlyPNI, hrow]
      rw [loadAndUpdateInTxn_single order faults s updater _ (Bool.eq_false_iff.mpr hsel) hrows, hsingle]
  split
  · rfl
  · split
    · rfl
    · rw [htable]

end MautrixSignal.Recipients
