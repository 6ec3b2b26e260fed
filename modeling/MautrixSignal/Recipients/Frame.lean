import MautrixSignal.Recipients.Rows

namespace MautrixSignal.Recipients

open Lib Table

variable {row : Row} {out : Recipient}

def Keeps (x : Row) (table : Table) : Prop :=
  ∃ row ∈ table.rows, row.aci = x.aci ∧ row.pni = x.pni

section Keeps

variable {x : Row} {table : Table}

theorem Keeps.of_mem (h : x ∈ table.rows) : Keeps x table :=
  ⟨x, h, rfl, rfl⟩

theorem Keeps.deleteByPNI (h : Keeps x table) {pni : UUID} (hp : x.pni ≠ some pni) :
    Keeps x (table.deleteByPNI pni) := by
  obtain ⟨row, hm, ha, hpni⟩ := h
  refine ⟨row, ?_, ha, hpni⟩
  simp [Table.deleteByPNI, deleteOn, hm, hpni, hp]

theorem ofRows?_rows {rows : List Row} {table' : Table} (h : ofRows? rows = some table') :
    table'.rows = rows := by
  unfold ofRows? at h
  split at h
  · cases h; rfl
  · cases h

theorem Keeps.upsertOn (h : Keeps x table) {key : Row → Option UUID} {k : UUID} {update : Row → Row}
    {fresh : Row} {table' : Table} (hup : ofRows? (upsertOn key k update fresh table.rows) = some table')
    (hsame : ∀ row, row.aci = x.aci → row.pni = x.pni → key row = some k →
      (update row).aci = x.aci ∧ (update row).pni = x.pni) : Keeps x table' := by
  obtain ⟨row, hm, ha, hp⟩ := h
  unfold Keeps
  rw [ofRows?_rows hup, Lib.upsertOn]
  split
  · refine ⟨_, List.mem_map_of_mem hm, ?_⟩
    by_cases hk : key row = some k
    · simpa [hk] using hsame row ha hp hk
    · simp [hk, ha, hp]
  · exact ⟨row, List.mem_append_left _ hm, ha, hp⟩

theorem Keeps.storeRecipient {s : Store} (h : Keeps x s.table) (faults : Faults) (r : Recipient)
    (hsame : r.aci ≠ .nil → x.aci = some r.aci → nullableUUID r.pni = x.pni) :
    Keeps x (s.storeRecipient faults r).1.table := by
  unfold Store.storeRecipient
  split
  · next hr =>
      split
      · next table' hup =>
          have hup : s.table.upsertACI r = some table' := by
            by_cases hf : faults.upsert
            · simp [hf] at hup
            · simpa [hf] using hup
          refine h.upsertOn hup ?_
          intro row ha hp hk
          exact ⟨ha, hsame hr (ha ▸ hk)⟩
      · exact h
  · split
    · split
      · next table' hup =>
          have hup : s.table.upsertPNI r = some table' := by
            by_cases hf : faults.upsert
            · simp [hf] at hup
            · simpa [hf] using hup
          refine h.upsertOn hup ?_
          intro row ha hp _
          exact ⟨ha, hp⟩
      · exact h
    · exact h

theorem Keeps.deleteRecipientByPNI {s : Store} (h : Keeps x s.table) (faults : Faults) {pni : UUID}
    (hp : x.pni ≠ some pni) : Keeps x (s.deleteRecipientByPNI faults pni).1.table := by
  unfold Store.deleteRecipientByPNI
  split
  · exact h
  · exact h.deleteByPNI hp

end Keeps

theorem Row.aci_of_scanned (h : row.scannedACI ≠ .nil) : row.aci = some row.scannedACI := by
  cases ha : row.aci with
  | none => simp [Row.scannedACI, ha] at h
  | some a => simp [Row.scannedACI, ha]

theorem Row.pni_of_scanned (h : row.scannedPNI ≠ .nil) : row.pni = some row.scannedPNI := by
  cases hp : row.pni with
  | none => simp [Row.scannedPNI, hp] at h
  | some p => simp [Row.scannedPNI, hp]

def Foreign (table : Table) (aci : UUID) (x : Row) : Prop :=
  x ∈ table.rows ∧ x.scannedACI ≠ .nil ∧ x.scannedACI ≠ aci

def FoundBy (table : Table) (aci pni : UUID) (row : Row) : Prop :=
  row ∈ table.rows ∧ ((aci ≠ .nil ∧ row.aci = some aci) ∨ (pni ≠ .nil ∧ row.pni = some pni))

variable {table : Table} {aci pni : UUID}

theorem handed_identifiers {entry : Option Row} (hentry : ∀ row ∈ entry, FoundBy table aci pni row)
    (ha : out.aci = ((entry.map scanRecipient).getD { aci := aci, pni := pni }).aci)
    (hp : out.pni = ((entry.map scanRecipient).getD { aci := aci, pni := pni }).pni) :
    (out.aci = aci ∧ out.pni = pni) ∨
      ∃ row, FoundBy table aci pni row ∧ out.aci = row.scannedACI ∧ out.pni = row.scannedPNI := by
  cases entry with
  | none => exact .inl ⟨ha, hp⟩
  | some row => exact .inr ⟨row, hentry row rfl, ha, hp⟩

theorem keeps_deleteOldPNIRow (faults : Faults) (s : Store) {x : Row} (hx : Foreign s.table aci x) (hout : (out.aci =
      aci ∧ out.pni = pni) ∨ ∃ row, FoundBy s.table aci pni row ∧ out.aci = row.scannedACI ∧ out.pni = row.scannedPNI) :
    Keeps x (deleteOldPNIRow faults s aci out).1.table := by
  obtain ⟨hmem, hnil, _⟩ := hx
  unfold deleteOldPNIRow
  split
  · next hc =>
      obtain ⟨hpni, haci, hgiven⟩ := hc
      refine (Keeps.of_mem hmem).deleteRecipientByPNI faults ?_
      intro hxp
      rcases hout with ⟨ha, _⟩ | ⟨row, hrow, ha, hp⟩
      · exact hgiven (ha ▸ haci)
      have hrp : row.pni = some out.pni := by
        rw [hp] at hpni ⊢
        exact Row.pni_of_scanned hpni
      have heq := eq_of_pni hmem hrow.1 hxp hrp
      subst heq
      exact hnil (ha ▸ haci)
  · exact Keeps.of_mem hmem

theorem fill_keeps_foreign {x : Row} (hx : Foreign table aci x) (hout : (out.aci = aci ∧ out.pni = pni) ∨ ∃ row,
      FoundBy table aci pni row ∧ out.aci = row.scannedACI ∧ out.pni = row.scannedPNI)
    (hsame : x.aci = some (out.fill aci pni).aci) : nullableUUID (out.fill aci pni).pni = x.pni := by
  obtain ⟨hmem, hnil, hne⟩ := hx
  have hxaci : x.scannedACI = (out.fill aci pni).aci := by simp [Row.scannedACI, hsame]
  have hold : ¬(out.aci = .nil ∧ aci ≠ .nil) := by
    intro hc
    exact hne (by simp [hxaci, Recipient.fill, hc])
  simp only [Recipient.fill, hold, if_false] at hxaci hsame ⊢
  rcases hout with ⟨ha, _⟩ | ⟨row, ⟨hrow, hfound⟩, ha, hp⟩
  · exact absurd (hxaci.trans ha) hne
  have hraci : row.aci = some out.aci := by
    rw [ha]
    exact Row.aci_of_scanned (by rw [← ha, ← hxaci]; exact hnil)
  have heq := table.unique.aci.eq_of_key hmem hrow hsame hraci
  subst heq
  rcases hfound with ⟨_, hk⟩ | ⟨hgiven, hk⟩
  · exact absurd (by simp [Row.scannedACI, hk]) hne
  · have hpni : out.pni = pni := by simp [hp, Row.scannedPNI, hk]
    simp [hpni, nullableUUID, hgiven, hk]

theorem keeps_updateSingle (faults : Faults) (s : Store) (aci pni : UUID) (entry : Option Row)
    (updater : Updater) {x : Row} (hx : Foreign s.table aci x) (hentry : ∀ row ∈ entry, FoundBy s.table aci pni row) :
    Keeps x (updateSingle faults s aci pni entry updater).store.table := by
  simp only [updateSingle]
  have hout := handed_identifiers hentry (updater.keeps_aci _) (updater.keeps_pni _)
  generalize (entry.map scanRecipient).getD { aci := aci, pni := pni } = handed at hout ⊢
  have hdel := keeps_deleteOldPNIRow faults s hx hout
  cases (updater.run handed).2 with
  | error text => exact Keeps.of_mem hx.1
  | ok changed =>
    generalize (updater.run handed).1 = out at hout hdel ⊢
    rcases hd : deleteOldPNIRow faults s aci out with ⟨s', err⟩
    rw [hd] at hdel
    cases err with
    | some err => exact hdel
    | none =>
      simp only
      split
      · have h := hdel.storeRecipient faults _ fun _ => fill_keeps_foreign hx hout
        rcases hst : s'.storeRecipient faults (out.fill aci pni) with ⟨s'', err⟩
        rw [hst] at h
        cases err with
        | some err | none => exact h
      · exact hdel

theorem keeps_mergeRecipients (faults : Faults) (s : Store) (first second : Recipient)
    (updater : Updater) {x : Row} (hmem : x ∈ s.table.rows)
    (hp : x.pni ≠ some (combine first second).pni) (ha : x.aci ≠ some (combine first second).aci) :
    Keeps x (mergeRecipients faults s first second updater).store.table := by
  simp only [mergeRecipients]
  rw [← updater.keeps_pni] at hp
  rw [← updater.keeps_aci] at ha
  have hdel := (Keeps.of_mem hmem).deleteRecipientByPNI faults hp
  cases (updater.run (combine first second)).2 with
  | error text => exact Keeps.of_mem hmem
  | ok changed =>
    generalize (updater.run (combine first second)).1 = merged at ha hdel ⊢
    rcases hd : s.deleteRecipientByPNI faults merged.pni with ⟨s', err⟩
    rw [hd] at hdel
    cases err with
    | some err => exact hdel
    | none =>
      have h := hdel.storeRecipient faults merged fun _ hsame => absurd hsame ha
      simp only
      rcases hst : s'.storeRecipient faults merged with ⟨s'', err⟩
      rw [hst] at h
      cases err with
      | some err | none => exact h

-- The PNI asked for is on a row of another person, while the person asked for has a row too.
def PNIHeldByAnother (table : Table) (aci pni : UUID) : Prop :=
  aci ≠ .nil ∧ pni ≠ .nil ∧ (∃ row ∈ table.rows, row.aci = some aci) ∧
    ∃ row ∈ table.rows, row.pni = some pni ∧ row.scannedACI ≠ .nil ∧ row.scannedACI ≠ aci

instance (table : Table) (aci pni : UUID) : Decidable (PNIHeldByAnother table aci pni) := by
  unfold PNIHeldByAnother
  infer_instance

theorem pniRow_without_aci (ha : aci ≠ .nil) (hp : pni ≠ .nil) (hfree : ¬PNIHeldByAnother table aci pni) {row' : Row}
    (hne : row ≠ row') (hrow : table.byACI aci = some row) (hrow' : table.byPNI pni = some row') :
    row'.scannedACI = .nil := by
  obtain ⟨hm, hk⟩ := byACI_mem hrow
  obtain ⟨hm', hk'⟩ := byPNI_mem hrow'
  by_contra hnil
  refine hfree ⟨ha, hp, ⟨row, hm, hk⟩, row', hm', hk', hnil, ?_⟩
  intro hsame
  have haci := Row.aci_of_scanned hnil
  rw [hsame] at haci
  exact hne (table.unique.aci.eq_of_key hm hm' hk haci)

theorem scanRecipient_aci (h : table.byACI aci = some row) : (scanRecipient row).aci = aci := by
  simp [scanRecipient, Row.scannedACI, (byACI_mem h).2]

theorem scanRecipient_pni (h : table.byPNI pni = some row) : (scanRecipient row).pni = pni := by
  simp [scanRecipient, Row.scannedPNI, (byPNI_mem h).2]

theorem matchingRows_cases (order : RowOrder) (table : Table) (hgiven : ¬(aci = .nil ∧ pni = .nil)) :
    (∃ entry : Option Row, matchingRows order table aci pni = entry.toList ∧
      ∀ row ∈ entry, FoundBy table aci pni row) ∨
    (aci ≠ .nil ∧ pni ≠ .nil ∧ ∃ row row', row ≠ row' ∧ table.byACI aci = some row ∧
      table.byPNI pni = some row' ∧
      (matchingRows order table aci pni = [row, row'] ∨
        matchingRows order table aci pni = [row', row])) := by
  have hfoundACI : aci ≠ .nil → ∀ row, table.byACI aci = some row → FoundBy table aci pni row :=
    fun ha row h => ⟨(byACI_mem h).1, .inl ⟨ha, (byACI_mem h).2⟩⟩
  have hfoundPNI : pni ≠ .nil → ∀ row, table.byPNI pni = some row → FoundBy table aci pni row :=
    fun hp row h => ⟨(byPNI_mem h).1, .inr ⟨hp, (byPNI_mem h).2⟩⟩
  by_cases ha : aci = .nil
  · have hp : pni ≠ .nil := fun hp => hgiven ⟨ha, hp⟩
    exact .inl ⟨table.byPNI pni, by simp [matchingRows, ha], hfoundPNI hp⟩
  by_cases hp : pni = .nil
  · exact .inl ⟨table.byACI aci, by simp [matchingRows, ha, hp], hfoundACI ha⟩
  have hrows : matchingRows order table aci pni = order.arrange (table.byACIOrPNI aci pni) := by
    simp [matchingRows, ha, hp]
  have hmat := matched_of_query order table ha hp
  rw [← hrows] at hmat
  generalize matchingRows order table aci pni = rows at hmat
  cases hmat with
  | neither => exact .inl ⟨none, rfl, by simp⟩
  | onlyACI row hra => exact .inl ⟨some row, rfl, by simpa using hfoundACI ha row hra⟩
  | onlyPNI row _ hrp => exact .inl ⟨some row, rfl, by simpa using hfoundPNI hp row hrp⟩
  | both row hra => exact .inl ⟨some row, rfl, by simpa using hfoundACI ha row hra⟩
  | aciFirst row row' hne hra hrp => exact .inr ⟨ha, hp, row, row', hne, hra, hrp, .inl rfl⟩
  | pniFirst row row' hne hra hrp => exact .inr ⟨ha, hp, row, row', hne, hra, hrp, .inr rfl⟩

section InTxn

variable (order : RowOrder) (faults : Faults) (s : Store) {aci pni : UUID} (updater : Updater)
  {row row' : Row}

theorem loadAndUpdateInTxn_single (entry : Option Row) (hsel : faults.select = false)
    (hrows : matchingRows order s.table aci pni = entry.toList) :
    loadAndUpdateInTxn order faults s aci pni updater =
      updateSingle faults s aci pni entry updater := by
  cases entry <;> simp [loadAndUpdateInTxn, hsel, hrows]

theorem loadAndUpdateInTxn_pair (hsel : faults.select = false)
    (hrows : matchingRows order s.table aci pni = [row, row']) :
    loadAndUpdateInTxn order faults s aci pni updater =
      let out := mergeRecipients faults s (scanRecipient row) (scanRecipient row') updater
      { out with err := out.err.map (.mergeFailed aci pni) } := by
  simp [loadAndUpdateInTxn, hsel, hrows]

theorem mergeRecipients_swap (ha : aci ≠ .nil) (hrow : s.table.byACI aci = some row)
    (hnil : row'.scannedACI = .nil) :
    mergeRecipients faults s (scanRecipient row') (scanRecipient row) updater =
      mergeRecipients faults s (scanRecipient row) (scanRecipient row') updater := by
  refine mergeRecipients_congr faults s updater (combine_comm ?_ hnil)
  rw [scanRecipient_aci hrow]
  exact ha

theorem loadAndUpdateInTxn_merge (ha : aci ≠ .nil) (hsel : faults.select = false)
    (hrow : s.table.byACI aci = some row) (hnil : row'.scannedACI = .nil)
    (hrows : matchingRows order s.table aci pni = [row, row'] ∨
      matchingRows order s.table aci pni = [row', row]) :
    loadAndUpdateInTxn order faults s aci pni updater =
      let out := mergeRecipients faults s (scanRecipient row) (scanRecipient row') updater
      { out with err := out.err.map (.mergeFailed aci pni) } := by
  rcases hrows with hrows | hrows
  · exact loadAndUpdateInTxn_pair order faults s updater hsel hrows
  · rw [loadAndUpdateInTxn_pair order faults s updater hsel hrows,
      mergeRecipients_swap faults s updater ha hrow hnil]

theorem keeps_loadAndUpdateInTxn (hgiven : ¬(aci = .nil ∧ pni = .nil))
    (hfree : ¬PNIHeldByAnother s.table aci pni) {x : Row} (hx : Foreign s.table aci x) :
    Keeps x (loadAndUpdateInTxn order faults s aci pni updater).store.table := by
  by_cases hsel : faults.select
  · simp only [loadAndUpdateInTxn, hsel]
    exact Keeps.of_mem hx.1
  have hsel : faults.select = false := by simpa using hsel
  rcases matchingRows_cases order s.table hgiven with
    ⟨entry, hrows, hentry⟩ | ⟨ha, hp, row, row', hne, hrow, hrow', hrows⟩
  · rw [loadAndUpdateInTxn_single order faults s updater entry hsel hrows]
    exact keeps_updateSingle faults s aci pni entry updater hx hentry
  · have hnil := pniRow_without_aci ha hp hfree hne hrow hrow'
    rw [loadAndUpdateInTxn_merge order faults s updater ha hsel hrow hnil hrows]
    have hfirst : (scanRecipient row).aci ≠ .nil := by rwa [scanRecipient_aci hrow]
    refine keeps_mergeRecipients faults s _ _ updater hx.1 ?_ ?_
    · rw [combine_pni hfirst, scanRecipient_pni hrow']
      intro hxp
      have heq := eq_of_pni hx.1 (byPNI_mem hrow').1 hxp (byPNI_mem hrow').2
      rw [heq] at hx
      exact hx.2.1 hnil
    · rw [combine_aci hfirst, scanRecipient_aci hrow]
      intro hxa
      exact hx.2.2 (by simp [Row.scannedACI, hxa])

theorem loadAndUpdateInTxn_order (order' : RowOrder) (hfree : ¬PNIHeldByAnother s.table aci pni) :
    loadAndUpdateInTxn order faults s aci pni updater =
      loadAndUpdateInTxn order' faults s aci pni updater := by
  by_cases hsel : faults.select
  · simp [loadAndUpdateInTxn, hsel]
  have hsel : faults.select = false := by simpa using hsel
  by_cases hboth : aci ≠ .nil ∧ pni ≠ .nil
  · obtain ⟨ha, hp⟩ := hboth
    have hrows : ∀ o : RowOrder, matchingRows o s.table aci pni =
        o.arrange (s.table.byACIOrPNI aci pni) := by
      simp [matchingRows, ha, hp]
    have h := (matched_of_query order s.table ha hp).eq_or_swap (matched_of_query order' s.table ha hp)
    rw [← hrows, ← hrows] at h
    rcases h with heq | ⟨row, row', hne, hrow, hrow', hswap⟩
    · simp [loadAndUpdateInTxn, heq]
    · have hnil := pniRow_without_aci ha hp hfree hne hrow hrow'
      rw [loadAndUpdateInTxn_merge order faults s updater ha hsel hrow hnil
          (hswap.imp And.left And.left),
        loadAndUpdateInTxn_merge order' faults s updater ha hsel hrow hnil
          (hswap.symm.imp And.right And.right)]
  · simp [loadAndUpdateInTxn, matchingRows, if_neg hboth]

end InTxn

theorem cacheResult_table (out : Outcome) : (cacheResult out).store.table = out.store.table := by
  unfold cacheResult
  split
  · split <;> rfl
  · rfl

theorem cacheResult_recipient (out : Outcome) : (cacheResult out).recipient = out.recipient := by
  unfold cacheResult
  split
  · split <;> rfl
  · rfl

theorem keeps_doTxn (inTxn : Bool) (faults : Faults) (s : Store) (fn : Store → Outcome) {x : Row}
    (hs : Keeps x s.table) (hfn : Keeps x (fn s).store.table) : Keeps x (doTxn inTxn faults s fn).store.table := by
  simp only [doTxn]
  split_ifs
  · exact hfn
  · exact hs
  · exact hs
  · exact hs
  · exact hfn

section Call

variable (faults : Faults) (inTxn : Bool) (s : Store) {aci pni : UUID} (updater : Updater)

theorem loadAndUpdateRecipient_order (order order' : RowOrder) (hfree : ¬PNIHeldByAnother s.table aci pni) :
    loadAndUpdateRecipient order faults inTxn s aci pni updater =
      loadAndUpdateRecipient order' faults inTxn s aci pni updater := by
  have h := loadAndUpdateInTxn_order order faults s updater order' hfree
  simp [loadAndUpdateRecipient, doTxn, h]

theorem keeps_loadAndUpdateRecipient (order : RowOrder) (hfree : ¬PNIHeldByAnother s.table aci pni)
    {x : Row} (hx : Foreign s.table aci x) :
    Keeps x (loadAndUpdateRecipient order faults inTxn s aci pni updater).store.table := by
  unfold loadAndUpdateRecipient
  split
  · exact Keeps.of_mem hx.1
  · next hgiven =>
      rw [cacheResult_table]
      exact keeps_doTxn inTxn faults s _ (Keeps.of_mem hx.1)
        (keeps_loadAndUpdateInTxn order faults s updater hgiven hfree hx)

theorem mergeRecipients_recipient (first second : Recipient) :
    (mergeRecipients faults s first second updater).recipient =
      some (updater.run (combine first second)).1 := by
  simp only [mergeRecipients]
  split
  · rfl
  · split
    · rfl
    · split <;> rfl

theorem recipient_aci_of_pair (order : RowOrder) {row' : Row} (hgiven : aci ≠ .nil)
    (hrows : matchingRows order s.table aci pni = [row, row']) (hnil : row.scannedACI ≠ .nil) :
    ((loadAndUpdateRecipient order {} inTxn s aci pni updater).recipient.map Recipient.aci) =
      some row.scannedACI := by
  have hin := loadAndUpdateInTxn_pair order {} s updater rfl hrows
  have hrec : (loadAndUpdateInTxn order {} s aci pni updater).recipient =
      some (updater.run (combine (scanRecipient row) (scanRecipient row'))).1 := by
    rw [hin]
    exact mergeRecipients_recipient {} s updater _ _
  have hdo : (doTxn inTxn {} s fun s => loadAndUpdateInTxn order {} s aci pni updater).recipient =
      (loadAndUpdateInTxn order {} s aci pni updater).recipient := by
    simp only [doTxn]
    split_ifs <;> simp_all
  simp only [loadAndUpdateRecipient, hgiven, false_and, if_false]
  rw [cacheResult_recipient, hdo, hrec, Option.map_some, updater.keeps_aci, combine_aci hnil]
  rfl

end Call

-- The result is the same in every row order and nobody else's row is touched, exactly if the PNI is not
-- on another person's row while the person asked for has a row too.
theorem loadAndUpdateRecipient_order_and_frame_iff (inTxn : Bool) (s : Store) (aci pni : UUID)
    (updater : Updater) :
    ((∀ order order', loadAndUpdateRecipient order {} inTxn s aci pni updater =
        loadAndUpdateRecipient order' {} inTxn s aci pni updater) ∧
      ∀ order x, Foreign s.table aci x →
        Keeps x (loadAndUpdateRecipient order {} inTxn s aci pni updater).store.table) ↔
      ¬PNIHeldByAnother s.table aci pni := by
  constructor
  · rintro ⟨hsame, _⟩ ⟨ha, hp, ⟨row, hm, hk⟩, row', hm', hk', hnil, hne⟩
    have hrow := byACI_eq_some hm hk
    have hrow' := byPNI_eq_some hm' hk'
    have hdiff : row.scannedACI ≠ row'.scannedACI := by
      simpa [Row.scannedACI, hk] using hne.symm
    have haci : row.scannedACI ≠ .nil := by simpa [Row.scannedACI, hk] using ha
    have hmat := matched_of_query .stored s.table ha hp
    have hsame := congrArg (fun out => out.recipient.map Recipient.aci) (hsame .stored .reversed)
    have hquery : s.table.byACIOrPNI aci pni = [row, row'] ∨
        s.table.byACIOrPNI aci pni = [row', row] := by
      generalize s.table.byACIOrPNI aci pni = rows at hmat ⊢
      cases hmat <;> simp_all
    have hstored : ∀ rows, s.table.byACIOrPNI aci pni = rows →
        matchingRows .stored s.table aci pni = rows := by
      intro rows h
      simp [matchingRows, ha, hp, RowOrder.stored, h]
    have hreversed : ∀ rows, s.table.byACIOrPNI aci pni = rows →
        matchingRows .reversed s.table aci pni = rows.reverse := by
      intro rows h
      simp [matchingRows, ha, hp, RowOrder.reversed, h]
    rcases hquery with h | h
    · simp only [recipient_aci_of_pair inTxn s updater .stored ha (hstored _ h) haci,
        recipient_aci_of_pair inTxn s updater .reversed ha (hreversed _ h) hnil] at hsame
      exact hdiff (Option.some.inj hsame)
    · simp only [recipient_aci_of_pair inTxn s updater .stored ha (hstored _ h) hnil,
        recipient_aci_of_pair inTxn s updater .reversed ha (hreversed _ h) haci] at hsame
      exact hdiff.symm (Option.some.inj hsame)
  · intro hfree
    exact ⟨fun order order' => loadAndUpdateRecipient_order {} inTxn s updater order order' hfree,
      fun order x hx => keeps_loadAndUpdateRecipient {} inTxn s updater order hfree hx⟩

def twoPeople : Table :=
  ⟨[{ aci := some (.ofByte 1) }, { aci := some (.ofByte 2), pni := some (.ofByte 9) }], by decide⟩

-- Asking for the first person with the second one's PNI: in the stored order the
-- second row is removed, in the other order the second one is returned.
theorem loadAndUpdateRecipient_takes_over_row :
    (loadAndUpdateRecipient .stored {} false { table := twoPeople } (.ofByte 1) (.ofByte 9)
        .noop).store.table.rows = [{ aci := some (.ofByte 1), pni := some (.ofByte 9) }] ∧
      (loadAndUpdateRecipient .reversed {} false { table := twoPeople } (.ofByte 1) (.ofByte 9)
        .noop).recipient.map Recipient.aci = some (.ofByte 2) := by
  decide

end MautrixSignal.Recipients
