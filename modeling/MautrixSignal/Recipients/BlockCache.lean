import MautrixSignal.Lib.Run
import MautrixSignal.Recipients.Requested

namespace MautrixSignal.Recipients

open Lib

variable {r : Recipient}

section StoredBlocked

variable {table table' : Table}

theorem storedBlocked_of_mem {row : Row} {aci : UUID} (hm : row ∈ table.rows) (hk : row.aci = some aci) :
    table.storedBlocked aci = row.blocked := by
  simp [Table.storedBlocked, Table.byACI_eq_some hm hk]

theorem storedBlocked_of_none {aci : UUID} (h : table.byACI aci = none) : table.storedBlocked aci = false := by
  simp [Table.storedBlocked, h]

theorem storedBlocked_upsertACI (h : table.upsertACI r = some table') (aci : UUID) :
    table'.storedBlocked aci = if aci = r.aci then r.blocked else table.storedBlocked aci := by
  unfold Table.storedBlocked Table.byACI
  rw [ofRows?_rows h, selectOn_upsertOn]
  · by_cases heq : aci = r.aci
    · rw [if_pos heq, if_pos heq]
      cases selectOn Row.aci r.aci table.rows <;> rfl
    · rw [if_neg heq, if_neg heq]
  · exact fun _ => rfl
  · rfl

theorem storedBlocked_upsertProfileKey {aci' : UUID} {key : ProfileKey}
    (h : table.upsertProfileKey aci' key = some table') (aci : UUID) :
    table'.storedBlocked aci = table.storedBlocked aci := by
  unfold Table.storedBlocked Table.byACI
  rw [ofRows?_rows h, selectOn_upsertOn]
  · by_cases heq : aci = aci'
    · subst heq
      rw [if_pos rfl]
      cases selectOn Row.aci aci table.rows <;> rfl
    · rw [if_neg heq]
  · exact fun _ => rfl
  · rfl

theorem storedBlocked_upsertPNI (h : table.upsertPNI r = some table') (aci : UUID) :
    table'.storedBlocked aci = table.storedBlocked aci := by
  unfold Table.storedBlocked Table.byACI
  rw [ofRows?_rows h]
  unfold upsertOn
  split
  · rw [selectOn_map]
    · cases selectOn Row.aci aci table.rows with
      | none => rfl
      | some row =>
        simp only [Option.map_some]
        split <;> rfl
    · intro row _
      split <;> rfl
  · simp [selectOn]

theorem storedBlocked_deleteByPNI {pni aci : UUID}
    (h : ∀ row ∈ table.rows, row.pni = some pni → row.aci = some aci → row.blocked = false) :
    (table.deleteByPNI pni).storedBlocked aci = table.storedBlocked aci := by
  cases hrow : table.byACI aci with
  | none =>
    have hsel : (table.deleteByPNI pni).byACI aci = none := by
      refine selectOn_eq_none.mpr ?_
      intro row hm
      exact selectOn_eq_none.mp hrow row (List.mem_filter.mp hm).1
    rw [storedBlocked_of_none hsel, storedBlocked_of_none hrow]
  | some row =>
    obtain ⟨hm, hk⟩ := Table.byACI_mem hrow
    rw [storedBlocked_of_mem hm hk]
    by_cases hp : row.pni = some pni
    · have hsel : (table.deleteByPNI pni).byACI aci = none := by
        refine selectOn_eq_none.mpr ?_
        intro row' hm' hk'
        obtain ⟨hm', hkept⟩ := List.mem_filter.mp hm'
        rw [table.unique.aci.eq_of_key hm' hm hk' hk] at hkept
        simp [hp] at hkept
      rw [storedBlocked_of_none hsel, h row hm hp hk]
    · refine storedBlocked_of_mem ?_ hk
      exact List.mem_filter.mpr ⟨hm, by simpa using hp⟩

end StoredBlocked

-- Every cached value is the stored one, and nothing is cached for the zero UUID.
def Coherent (s : Store) : Prop :=
  ∀ aci b, s.blockCache aci = some b → aci ≠ .nil ∧ s.table.storedBlocked aci = b

variable {s : Store}

theorem Coherent.of_table (h : Coherent s) {table : Table}
    (hsame : ∀ aci, aci ≠ .nil → table.storedBlocked aci = s.table.storedBlocked aci) :
    Coherent { s with table := table } := by
  intro aci b hb
  obtain ⟨hnil, hs⟩ := h aci b hb
  exact ⟨hnil, (hsame aci hnil).trans hs⟩

theorem Coherent.cacheBlocked (h : Coherent s) {aci : UUID} {blocked : Bool} (hnil : aci ≠ .nil)
    (hb : s.table.storedBlocked aci = blocked) : Coherent (s.cacheBlocked aci blocked) := by
  intro a b hab
  simp only [Store.cacheBlocked] at hab ⊢
  split at hab
  · next heq =>
      cases hab
      subst heq
      exact ⟨hnil, hb⟩
  · exact h a b hab

theorem Coherent.storeRecipient (h : Coherent s) (faults : Faults) (hfail : r.aci ≠ .nil → faults.upsert = true ∨
      s.table.upsertACI r = none → s.table.storedBlocked r.aci = r.blocked) :
    Coherent (s.storeRecipient faults r).1 := by
  unfold Store.storeRecipient
  by_cases hr : r.aci ≠ .nil
  · rw [if_pos hr]
    cases hf : faults.upsert with
    | true => exact h.cacheBlocked hr (hfail hr (.inl hf))
    | false =>
      simp only [Bool.false_eq_true, if_false]
      cases hup : s.table.upsertACI r with
      | none => exact h.cacheBlocked hr (hfail hr (.inr hup))
      | some table =>
        intro a b hab
        simp only [Store.cacheBlocked] at hab ⊢
        rw [storedBlocked_upsertACI hup]
        split at hab
        · next heq =>
            cases hab
            exact ⟨heq ▸ hr, if_pos heq⟩
        · next hne =>
            rw [if_neg hne]
            exact h a b hab
  · rw [if_neg hr]
    split
    · split
      · next table hup =>
          have hup : s.table.upsertPNI r = some table := by
            by_cases hf : faults.upsert
            · simp [hf] at hup
            · simpa [hf] using hup
          exact h.of_table fun aci _ => storedBlocked_upsertPNI hup aci
      · exact h
    · exact h

theorem Coherent.storeProfileKey (h : Coherent s) (faults : Faults) (aci : UUID) (key : ProfileKey) :
    Coherent (s.storeProfileKey faults aci key).1 := by
  unfold Store.storeProfileKey
  split
  · next table hup =>
      have hup : s.table.upsertProfileKey aci key = some table := by
        by_cases hf : faults.upsert
        · simp [hf] at hup
        · simpa [hf] using hup
      exact h.of_table fun a _ => storedBlocked_upsertProfileKey hup a
  · exact h

def handedRecipient (order : RowOrder) (table : Table) (aci pni : UUID) : Recipient :=
  match matchingRows order table aci pni with
  | [row] => scanRecipient row
  | [row, row'] => combine (scanRecipient row) (scanRecipient row')
  | _ => { aci := aci, pni := pni }

structure LoadSpec (faults : Faults) (s : Store) (aci : UUID) (blocked : Bool) (out : Outcome) :
    Prop where
  coherent : Coherent out.store
  cache : ∀ a b, out.store.blockCache a = some b →
    s.blockCache a = some b ∨ (a = aci ∧ b = blocked ∧ aci ≠ .nil)
  failed : out.err ≠ none → faults.upsert = false → out.store.blockCache = s.blockCache
  result : out.err = none → ∀ r, out.recipient = some r → r.aci ≠ .nil →
    out.store.table.storedBlocked r.aci = r.blocked

variable (faults : Faults)

theorem storeRecipient_cache (s : Store) (r : Recipient) (a : UUID) (b : Bool)
    (h : (s.storeRecipient faults r).1.blockCache a = some b) :
    s.blockCache a = some b ∨ (a = r.aci ∧ b = r.blocked ∧ r.aci ≠ .nil) := by
  unfold Store.storeRecipient at h
  by_cases hr : r.aci ≠ .nil
  · rw [if_pos hr] at h
    have hcache : (if a = r.aci then some r.blocked else s.blockCache a) = some b := by
      split at h <;> exact h
    by_cases ha : a = r.aci
    · rw [if_pos ha] at hcache
      exact .inr ⟨ha, (Option.some.inj hcache).symm, hr⟩
    · rw [if_neg ha] at hcache
      exact .inl hcache
  · rw [if_neg hr] at h
    left
    split at h
    · split at h <;> exact h
    · exact h

theorem storeRecipient_stored {faults : Faults} (hr : r.aci ≠ .nil) (h : (s.storeRecipient faults r).2 = none) :
    (s.storeRecipient faults r).1.table.storedBlocked r.aci = r.blocked := by
  unfold Store.storeRecipient at h ⊢
  rw [if_pos hr] at h ⊢
  cases hf : faults.upsert with
  | true => simp [hf] at h
  | false =>
    cases hup : s.table.upsertACI r with
    | none => simp [hup] at h
    | some table =>
      exact (storedBlocked_upsertACI hup r.aci).trans (if_pos rfl)

theorem loadSpec_store {faults : Faults} {s' : Store} (hs' : Coherent s') (hcache : s'.blockCache = s.blockCache)
    (hfail : faults.upsert = true → r.aci ≠ .nil → s'.table.storedBlocked r.aci = r.blocked)
    (hfree : r.aci ≠ .nil → PNIFree s'.table r) {context : String} {handed : Recipient} :
    LoadSpec faults s r.aci r.blocked
      (match s'.storeRecipient faults r with
        | (s'', some err) => ⟨s'', some r, some (.wrapped context err), some handed⟩
        | (s'', none) => ⟨s'', some r, none, some handed⟩) := by
  have hok : faults.upsert = false → r.aci ≠ .nil → ∃ table', s'.table.upsertACI r = some table' :=
    fun _ hr => upsertACI_ok (hfree hr)
  have hcoh : Coherent (s'.storeRecipient faults r).1 := by
    refine hs'.storeRecipient faults ?_
    rintro hr (hf | hnone)
    · exact hfail hf hr
    · obtain ⟨table', h⟩ := upsertACI_ok (hfree hr)
      rw [hnone] at h
      cases h
  have hwritten := storeRecipient_cache faults s' r
  rw [hcache] at hwritten
  have hstored : r.aci ≠ .nil → (s'.storeRecipient faults r).2 = none → _ := storeRecipient_stored
  have hfailed : (s'.storeRecipient faults r).2 ≠ none → faults.upsert = false →
      (s'.storeRecipient faults r).1.blockCache = s.blockCache := by
    intro herr hf
    by_cases hr : r.aci = .nil
    · simp only [Store.storeRecipient, hr, ne_eq, not_true, if_false]
      split
      · split <;> exact hcache
      · exact hcache
    · obtain ⟨table', h⟩ := hok hf hr
      simp [Store.storeRecipient, hr, hf, h] at herr
  generalize s'.storeRecipient faults r = stored at hcoh hwritten hstored hfailed
  obtain ⟨s'', err⟩ := stored
  cases err with
  | some err =>
    refine ⟨hcoh, hwritten, ?_, ?_⟩
    · intro _ hf
      exact hfailed (by simp) hf
    · intro h
      cases h
  | none =>
    refine ⟨hcoh, hwritten, ?_, ?_⟩
    · intro h
      exact absurd rfl h
    · intro _ r' hr' hnil
      cases hr'
      exact hstored hnil rfl

theorem storedBlocked_deleteOldPNIRow (s : Store) {aci pni a : UUID} {out : Recipient} (ha : a ≠ .nil) (hout :
      (out.aci = aci ∧ out.pni = pni) ∨ ∃ row, FoundBy s.table aci pni row ∧ out.aci = row.scannedACI ∧ out.pni =
      row.scannedPNI) : (deleteOldPNIRow faults s aci out).1.table.storedBlocked a = s.table.storedBlocked a := by
  unfold deleteOldPNIRow Store.deleteRecipientByPNI
  split
  · next hc =>
      obtain ⟨hpni, haci, hgiven⟩ := hc
      split
      · rfl
      refine storedBlocked_deleteByPNI ?_
      intro row hm hp hk
      exfalso
      rcases hout with ⟨h, _⟩ | ⟨row', hfound, hra, hrp⟩
      · exact hgiven (h ▸ haci)
      · rw [hrp] at hpni hp
        have heq := Table.eq_of_pni hm hfound.1 hp (Row.pni_of_scanned hpni)
        rw [← heq, haci, Row.scannedACI, hk] at hra
        exact ha hra.symm
  · rfl

theorem deleteOldPNIRow_cache (s : Store) (aci : UUID) (out : Recipient) :
    (deleteOldPNIRow faults s aci out).1.blockCache = s.blockCache := by
  unfold deleteOldPNIRow Store.deleteRecipientByPNI
  split
  · split <;> rfl
  · rfl

-- An updater that changes the blocked value reports a change, as every caller's does.
def ReportsBlocked (updater : Updater) : Prop :=
  ∀ r, (updater.run r).2 = .ok false → (updater.run r).1.blocked = r.blocked

theorem fill_aci_congr {r' : Recipient} (h : r.aci = r'.aci) (aci pni : UUID) :
    (r.fill aci pni).aci = (r'.fill aci pni).aci := by
  simp [Recipient.fill, h]

theorem loadSpec_failed {faults : Faults} {s' : Store} {aci : UUID} {blocked : Bool} (hs' : Coherent s')
    (hcache : s'.blockCache = s.blockCache) {recipient handed : Option Recipient} {err : StoreError} :
    LoadSpec faults s aci blocked ⟨s', recipient, some err, handed⟩ := by
  refine ⟨hs', ?_, fun _ _ => hcache, ?_⟩
  · intro a b h
    left
    rwa [← hcache]
  · intro h
    cases h

section Load

variable (order : RowOrder) (faults : Faults) (s : Store) {aci pni : UUID} (updater : Updater) {a : UUID}
  {blocked : Bool}

theorem loadSpec_updateSingle (entry : Option Row) (hs : Coherent s)
    (hrows : matchingRows order s.table aci pni = entry.toList)
    (hentry : ∀ row ∈ entry, FoundBy s.table aci pni row) (hreports : ReportsBlocked updater)
    {handed : Recipient} (hh : (entry.map scanRecipient).getD { aci := aci, pni := pni } = handed)
    (hfail : faults.upsert = true → (handed.fill aci pni).aci ≠ .nil →
      s.table.storedBlocked (handed.fill aci pni).aci = (updater.run handed).1.blocked) :
    LoadSpec faults s (handed.fill aci pni).aci (updater.run handed).1.blocked
      (updateSingle faults s aci pni entry updater) := by
  have hrep := hreports handed
  have hfill := fill_aci_congr (updater.keeps_aci handed) aci pni
  have ha : (updater.run handed).1.aci =
      ((entry.map scanRecipient).getD { aci := aci, pni := pni }).aci := by
    rw [updater.keeps_aci, hh]
  have hp : (updater.run handed).1.pni =
      ((entry.map scanRecipient).getD { aci := aci, pni := pni }).pni := by
    rw [updater.keeps_pni, hh]
  simp only [updateSingle, hh]
  generalize (updater.run handed).1 = out at hrep hfill ha hp hfail ⊢
  have hout := handed_identifiers hentry ha hp
  have hsame : ∀ a, a ≠ .nil → (deleteOldPNIRow faults s aci out).1.table.storedBlocked a =
      s.table.storedBlocked a := fun a hnil => storedBlocked_deleteOldPNIRow faults s hnil hout
  have hcache := deleteOldPNIRow_cache faults s aci out
  have hcoh : Coherent (deleteOldPNIRow faults s aci out).1 := by
    intro a b hab
    rw [hcache] at hab
    obtain ⟨hnil, hb⟩ := hs a b hab
    exact ⟨hnil, (hsame a hnil).trans hb⟩
  have hfree := pniFree_fill s order faults entry hrows hentry ha hp
  cases hres : (updater.run handed).2 with
  | error text => exact loadSpec_failed hs rfl
  | ok changed =>
    generalize deleteOldPNIRow faults s aci out = deleted at hsame hcache hcoh hfree
    obtain ⟨s', err⟩ := deleted
    cases err with
    | some err => exact loadSpec_failed hcoh hcache
    | none =>
      simp only at hsame hcache hcoh hfree ⊢
      rw [← hfill]
      split
      · refine loadSpec_store hcoh hcache ?_ (hfree trivial)
        intro hf hnil
        rw [hsame _ hnil, hfill]
        exact hfail hf (hfill ▸ hnil)
      · next hkept =>
          -- Nothing was written, so the row found is still the stored one.
          simp only [not_or] at hkept
          obtain ⟨hchg, hlacks, hsome⟩ := hkept
          have hchg : changed = false := by simpa using hchg
          refine ⟨hcoh, ?_, fun h => absurd rfl h, ?_⟩
          · intro a b h
            left
            rwa [← hcache]
          · intro _ r hr hnil
            cases hr
            cases entry with
            | none => exact absurd rfl hsome
            | some row =>
              have hblocked : out.blocked = row.blocked := by
                rw [hrep (by rw [hres, hchg]), ← hh]
                rfl
              have haci : (out.fill aci pni).aci = row.scannedACI := by
                have hno : ¬(out.aci = .nil ∧ aci ≠ .nil) := fun h => hlacks (.inr h)
                simp only [Recipient.fill, if_neg hno]
                exact ha
              rw [hsame _ hnil, haci]
              rw [haci] at hnil
              rw [storedBlocked_of_mem (hentry row rfl).1 (Row.aci_of_scanned hnil)]
              exact hblocked.symm

theorem loadSpec_mergeRecipients {first second : Recipient} (hs : Coherent s)
    (hnil : (combine first second).aci ≠ .nil)
    (hdel : ∀ row ∈ s.table.rows, row.pni = some (combine first second).pni → ∀ a, a ≠ .nil →
      row.aci = some a → row.blocked = false)
    (hfail : faults.upsert = true → s.table.storedBlocked (combine first second).aci =
      (updater.run (combine first second)).1.blocked) :
    LoadSpec faults s (combine first second).aci (updater.run (combine first second)).1.blocked
      (mergeRecipients faults s first second updater) := by
  simp only [mergeRecipients]
  generalize combine first second = handed at hnil hdel hfail ⊢
  have ha := updater.keeps_aci handed
  have hp := updater.keeps_pni handed
  cases (updater.run handed).2 with
  | error text => exact loadSpec_failed hs rfl
  | ok changed =>
    generalize (updater.run handed).1 = merged at ha hp hfail ⊢
    rw [← ha] at hnil hfail ⊢
    rw [← hp] at hdel
    simp only [Store.deleteRecipientByPNI]
    cases faults.delete with
    | true => exact loadSpec_failed hs rfl
    | false =>
      have hsame : ∀ a, a ≠ .nil → (s.table.deleteByPNI merged.pni).storedBlocked a =
          s.table.storedBlocked a :=
        fun a hna => storedBlocked_deleteByPNI fun row hm hrp hk => hdel row hm hrp a hna hk
      refine loadSpec_store (hs.of_table hsame) ?_ ?_ ?_
      · rfl
      · intro hf _
        exact (hsame _ hnil).trans (hfail hf)
      · intro _ row hm _ _
        simpa using (List.mem_filter.mp hm).2

theorem LoadSpec.map_err {out : Outcome} (h : LoadSpec faults s a blocked out) (f : StoreError → StoreError) :
    LoadSpec faults s a blocked { out with err := out.err.map f } := by
  refine ⟨h.coherent, h.cache, ?_, ?_⟩
  · intro herr
    exact h.failed (by simpa using herr)
  · intro herr
    exact h.result (by simpa using herr)

-- The call does not change a blocked value that it cannot store, and if it joins
-- the rows of two people, the row that it deletes is not a blocked one.
structure LoadKeepsBlocked (inTxn : Bool) (aci pni : UUID) : Prop where
  failure : faults.upsert = true ∨ (inTxn = false ∧ faults.commit = true) →
    ((handedRecipient order s.table aci pni).fill aci pni).aci ≠ .nil →
    s.table.storedBlocked ((handedRecipient order s.table aci pni).fill aci pni).aci =
      (updater.run (handedRecipient order s.table aci pni)).1.blocked
  merge : PNIHeldByAnother s.table aci pni → ∀ row ∈ s.table.rows,
    row.pni = some (handedRecipient order s.table aci pni).pni → row.blocked = false

theorem handedRecipient_single {entry : Option Row} {table : Table}
    (hrows : matchingRows order table aci pni = entry.toList) :
    (entry.map scanRecipient).getD { aci := aci, pni := pni } = handedRecipient order table aci pni := by
  cases entry <;> simp [handedRecipient, hrows]

variable (inTxn : Bool)

theorem loadSpec_inTxn (hs : Coherent s) (hgiven : ¬(aci = .nil ∧ pni = .nil)) (hreports : ReportsBlocked updater)
    (hkeeps : LoadKeepsBlocked order faults s updater inTxn aci pni) :
    LoadSpec faults s ((handedRecipient order s.table aci pni).fill aci pni).aci
      (updater.run (handedRecipient order s.table aci pni)).1.blocked
      (loadAndUpdateInTxn order faults s aci pni updater) := by
  have hfail := fun hf => hkeeps.failure (.inl hf)
  cases hsel : faults.select with
  | true =>
    simp only [loadAndUpdateInTxn, hsel]
    exact loadSpec_failed hs rfl
  | false =>
    rcases matchingRows_cases order s.table hgiven with
      ⟨entry, hrows, hentry⟩ | ⟨ha, hp, row, row', hne, hrow, hrow', hrows⟩
    · rw [loadAndUpdateInTxn_single order faults s updater entry hsel hrows]
      exact loadSpec_updateSingle order faults s updater entry hs hrows hentry hreports
        (handedRecipient_single order hrows) hfail
    · -- The two rows come in either order, and one of them has the ACI that was given.
      have hpair : ∃ x y, matchingRows order s.table aci pni = [x, y] ∧
          (x.scannedACI ≠ .nil ∨ y.scannedACI ≠ .nil) ∧
          (row'.scannedACI = .nil → combine (scanRecipient x) (scanRecipient y) =
            combine (scanRecipient row) (scanRecipient row')) := by
        have hfirst : row.scannedACI ≠ .nil := by
          rw [← scanRecipient_aci hrow] at ha
          exact ha
        rcases hrows with hrows | hrows
        · exact ⟨row, row', hrows, .inl hfirst, fun _ => rfl⟩
        · exact ⟨row', row, hrows, .inr hfirst, fun hnil => combine_comm hfirst hnil⟩
      obtain ⟨x, y, hxy, hsome, hcomm⟩ := hpair
      have hhanded : handedRecipient order s.table aci pni =
          combine (scanRecipient x) (scanRecipient y) := by
        simp [handedRecipient, hxy]
      have hnil : (combine (scanRecipient x) (scanRecipient y)).aci ≠ .nil :=
        combine_aci_ne_nil hsome
      have hfill : ((handedRecipient order s.table aci pni).fill aci pni).aci =
          (combine (scanRecipient x) (scanRecipient y)).aci := by
        simp [hhanded, Recipient.fill, hnil]
      rw [hfill, hhanded] at hfail
      rw [hfill, hhanded, loadAndUpdateInTxn_pair order faults s updater hsel hxy]
      refine (loadSpec_mergeRecipients faults s updater hs hnil ?_ fun hf => hfail hf hnil).map_err
        faults s _
      intro other hm hother a hna hk
      by_cases hheld : PNIHeldByAnother s.table aci pni
      · exact hkeeps.merge hheld other hm (hhanded ▸ hother)
      have hnil' := pniRow_without_aci ha hp hheld hne hrow hrow'
      have hfirst : (scanRecipient row).aci ≠ .nil := by rwa [scanRecipient_aci hrow]
      rw [hcomm hnil', combine_pni hfirst, scanRecipient_pni hrow'] at hother
      have heq := Table.eq_of_pni hm (Table.byPNI_mem hrow').1 hother (Table.byPNI_mem hrow').2
      rw [← heq, Row.scannedACI, hk] at hnil'
      exact absurd hnil' hna

theorem Coherent.doTxn (fn : Store → Outcome) (hs : Coherent s) (hspec : LoadSpec faults s a blocked (fn s))
    (hfail : faults.upsert = true ∨ (inTxn = false ∧ faults.commit = true) → a ≠ .nil → s.table.storedBlocked a =
      blocked) : Coherent (doTxn inTxn faults s fn).store := by
  -- After a rollback every new cache entry has to be right for the old table.
  have hrollback : (faults.upsert = true ∨ (inTxn = false ∧ faults.commit = true) ∨
      (fn s).err ≠ none) → Coherent ((fn s).store.rollback s.table) := by
    intro hcause x b hxb
    rcases hspec.cache x b hxb with hold | ⟨hx, hb, hnil⟩
    · exact hs x b hold
    subst hx hb
    refine ⟨hnil, ?_⟩
    rcases hcause with hf | hf | herr
    · exact hfail (.inl hf) hnil
    · exact hfail (.inr hf) hnil
    cases hup : faults.upsert with
    | true => exact hfail (.inl hup) hnil
    | false =>
      have hcache := hspec.failed herr hup
      change (fn s).store.blockCache x = some b at hxb
      rw [hcache] at hxb
      exact (hs x b hxb).2
  simp only [Recipients.doTxn]
  split_ifs with hin hbegin herr hcom
  · exact hspec.coherent
  · exact hs
  · exact hrollback (.inr (.inr (Option.isSome_iff_ne_none.mp herr)))
  · exact hrollback (.inr (.inl ⟨by simpa using hin, hcom⟩))
  · exact hspec.coherent

theorem doTxn_result (fn : Store → Outcome) (hspec : LoadSpec faults s a blocked (fn s))
    (herr : (doTxn inTxn faults s fn).err = none) (r : Recipient) (hr : (doTxn inTxn faults s fn).recipient = some r)
    (hnil : r.aci ≠ .nil) : (doTxn inTxn faults s fn).store.table.storedBlocked r.aci = r.blocked := by
  simp only [Recipients.doTxn] at herr hr ⊢
  split_ifs at herr hr ⊢ with hin hbegin hfn hcom
  · exact hspec.result herr r hr hnil
  · exact absurd herr (Option.isSome_iff_ne_none.mp hfn)
  · exact hspec.result herr r hr hnil

theorem Coherent.loadAndUpdateRecipient (hs : Coherent s) (hreports : ReportsBlocked updater)
    (hkeeps : LoadKeepsBlocked order faults s updater inTxn aci pni) :
    Coherent (loadAndUpdateRecipient order faults inTxn s aci pni updater).store := by
  unfold Recipients.loadAndUpdateRecipient
  split
  · exact hs
  next hgiven =>
    have hspec := loadSpec_inTxn order faults s updater inTxn hs hgiven hreports hkeeps
    have hco := hs.doTxn faults s inTxn
      (fun s => loadAndUpdateInTxn order faults s aci pni updater) hspec hkeeps.failure
    have hres := doTxn_result faults s inTxn
      (fun s => loadAndUpdateInTxn order faults s aci pni updater) hspec
    unfold cacheResult
    split
    · next r hr herr =>
        split
        · next hnil => exact hco.cacheBlocked hnil (hres herr r hr hnil)
        · exact hco
    · exact hco

end Load

section IsBlocked

variable (order : RowOrder) (faults : Faults) (inTxn : Bool) (s : Store) {aci : UUID} {r : Recipient}

theorem matchingRows_onlyACI (table : Table) (ha : aci ≠ .nil) :
    matchingRows order table aci .nil = (table.byACI aci).toList := by
  simp [matchingRows, ha]

theorem reportsBlocked_noop : ReportsBlocked .noop := by
  intro r _
  rfl

theorem handedRecipient_onlyACI (table : Table) (ha : aci ≠ .nil) :
    (handedRecipient order table aci .nil).aci = aci ∧
      (handedRecipient order table aci .nil).blocked = table.storedBlocked aci := by
  have hrows := matchingRows_onlyACI order table ha
  cases hrow : table.byACI aci with
  | none =>
    rw [hrow] at hrows
    simp [handedRecipient, hrows, storedBlocked_of_none hrow]
  | some row =>
    rw [hrow] at hrows
    obtain ⟨hm, hk⟩ := Table.byACI_mem hrow
    simp only [handedRecipient, hrows]
    exact ⟨scanRecipient_aci hrow, (storedBlocked_of_mem hm hk).symm⟩

theorem loadKeepsBlocked_noop (ha : aci ≠ .nil) : LoadKeepsBlocked order faults s .noop inTxn aci .nil := by
  obtain ⟨haci, hblocked⟩ := handedRecipient_onlyACI order s.table ha
  constructor
  · intro _ _
    have hfill : ((handedRecipient order s.table aci .nil).fill aci .nil).aci = aci := by
      simp [Recipient.fill, haci]
    rw [hfill]
    exact hblocked.symm
  · intro hheld
    exact absurd rfl hheld.2.1

theorem Coherent.isBlocked (hs : Coherent s) (aci : UUID) : Coherent (isBlocked order faults inTxn s aci).1 := by
  have hload : Coherent
      (Recipients.loadAndUpdateRecipient order faults inTxn s aci .nil .noop).store := by
    by_cases ha : aci = .nil
    · simpa [Recipients.loadAndUpdateRecipient, ha] using hs
    · exact hs.loadAndUpdateRecipient order faults s .noop inTxn reportsBlocked_noop
        (loadKeepsBlocked_noop order faults inTxn s ha)
  unfold Recipients.isBlocked
  split
  · exact hs
  · simp only
    split <;> exact hload

theorem updateSingle_blocked {pni : UUID} {entry : Option Row} {updater : Updater}
    (h : (updateSingle faults s aci pni entry updater).recipient = some r) :
    r.blocked =
      (updater.run ((entry.map scanRecipient).getD { aci := aci, pni := pni })).1.blocked := by
  simp only [updateSingle] at h
  split at h
  · cases h; rfl
  · split at h
    · cases h; rfl
    · split at h
      · split at h <;> cases h <;> rfl
      · cases h; rfl

theorem doTxn_recipient {fn : Store → Outcome} (h : (doTxn inTxn faults s fn).recipient = some r) :
    (fn s).recipient = some r := by
  simp only [doTxn] at h
  split_ifs at h <;> exact h

theorem loadAndUpdateRecipient_noop_blocked (ha : aci ≠ .nil)
    (h : (loadAndUpdateRecipient order faults inTxn s aci .nil .noop).recipient = some r) :
    r.blocked = s.table.storedBlocked aci := by
  simp only [loadAndUpdateRecipient, ha, false_and, if_false] at h
  rw [cacheResult_recipient] at h
  have h := doTxn_recipient faults inTxn s h
  cases hsel : faults.select with
  | true => simp [loadAndUpdateInTxn, hsel] at h
  | false =>
    have hrows := matchingRows_onlyACI order s.table ha
    simp only [loadAndUpdateInTxn_single order faults s .noop _ hsel hrows] at h
    rw [updateSingle_blocked faults s h, handedRecipient_single order hrows]
    exact (handedRecipient_onlyACI order s.table ha).2

theorem loadAndUpdateRecipient_noop_ok (ha : aci ≠ .nil) :
    ∃ r, (loadAndUpdateRecipient order {} inTxn s aci .nil .noop).err = none ∧
      (loadAndUpdateRecipient order {} inTxn s aci .nil .noop).recipient = some r := by
  have hrows := matchingRows_onlyACI order s.table ha
  have hin : ∃ s' r, loadAndUpdateInTxn order {} s aci .nil .noop =
      ⟨s', some r, none, some (handedRecipient order s.table aci .nil)⟩ := by
    rw [loadAndUpdateInTxn_single order {} s .noop _ rfl hrows]
    have hhanded := handedRecipient_single order hrows
    have haci := (handedRecipient_onlyACI order s.table ha).1
    simp only [updateSingle, hhanded]
    generalize handedRecipient order s.table aci .nil = handed at haci hhanded ⊢
    have hdel : deleteOldPNIRow {} s aci handed = (s, none) := by simp [deleteOldPNIRow, haci]
    have hlacks : ¬handed.lacks aci .nil := by simp [Recipient.lacks, haci]
    simp only [Updater.noop, hdel, hlacks]
    cases hrow : s.table.byACI aci with
    | some row => exact ⟨s, _, by simp; rfl⟩
    | none =>
      have hpni : handed.pni = .nil := by rw [← hhanded, hrow]; rfl
      have hstore := storeRecipient_ok (s := s) (r := handed.fill aci .nil)
        (by simp [Recipient.fill, haci, ha])
        (by intro _ _ _ hp; exact absurd (by simp [Recipient.fill, hpni]) hp)
      generalize s.storeRecipient {} (handed.fill aci .nil) = stored at hstore
      obtain ⟨s', err⟩ := stored
      subst hstore
      exact ⟨s', _, by simp; rfl⟩
  obtain ⟨s', r, hin⟩ := hin
  refine ⟨r, (loadAndUpdateRecipient_ok s order inTxn .noop ha hin).1, ?_⟩
  simp [loadAndUpdateRecipient, ha, cacheResult_recipient, doTxn, hin]

theorem isBlocked_result (hs : Coherent s) (aci : UUID) :
    (∀ b, (isBlocked order faults inTxn s aci).2 = .ok b → b = s.table.storedBlocked aci) ∧
      (aci ≠ .nil → (isBlocked order {} inTxn s aci).2 = .ok (s.table.storedBlocked aci)) := by
  unfold isBlocked
  cases hcache : s.blockCache aci with
  | some cached =>
    have hb := (hs aci cached hcache).2
    refine ⟨fun b h => ?_, fun _ => ?_⟩
    · cases h
      exact hb.symm
    · rw [hb]
  | none =>
    by_cases ha : aci = .nil
    · refine ⟨fun b h => ?_, fun hne => absurd ha hne⟩
      simp [loadAndUpdateRecipient, ha] at h
    obtain ⟨r, herr, hr⟩ := loadAndUpdateRecipient_noop_ok order inTxn s ha
    have hblocked := loadAndUpdateRecipient_noop_blocked order {} inTxn s ha hr
    refine ⟨fun b h => ?_, fun _ => ?_⟩
    · simp only at h
      split at h
      · next r' _ hr' =>
          cases h
          exact loadAndUpdateRecipient_noop_blocked order faults inTxn s ha hr'
      · -- A call without an error always has a recipient.
        next herr' hnone =>
          have hright : RightPerson aci .nil _ :=
            rightPerson_of_pairRecorded faults s .noop order inTxn fun _ hp => absurd rfl hp
          obtain ⟨_, r', _, hr', _⟩ := hright herr'
          rw [hnone] at hr'
          cases hr'
      · cases h
    · simp [herr, hr, hblocked]

end IsBlocked

structure State where
  store : Store
  saved : Option Table := none

def State.inTxn (s : State) : Bool := s.saved.isSome

inductive Action
  | load (order : RowOrder) (faults : Faults) (aci pni : UUID) (updater : Updater)
      (reports : ReportsBlocked updater)
  | store (faults : Faults) (r : Recipient)
  | storeProfileKey (faults : Faults) (aci : UUID) (key : ProfileKey)
  | isBlocked (order : RowOrder) (faults : Faults) (aci : UUID)
  | beginTxn
  | commitTxn (succeeds : Bool)
  | rollbackTxn

-- One call, or the begin or end of an outer transaction (DoContactTxn, DoTxn).
def step (s : State) : Action → Option State
  | .load order faults aci pni updater _ =>
    some { s with store := (loadAndUpdateRecipient order faults s.inTxn s.store aci pni updater).store }
  | .store faults r => some { s with store := (s.store.storeRecipient faults r).1 }
  | .storeProfileKey faults aci key => some { s with store := (s.store.storeProfileKey faults aci key).1 }
  | .isBlocked order faults aci => some { s with store := (isBlocked order faults s.inTxn s.store aci).1 }
  | .beginTxn => if s.inTxn then none else some { s with saved := some s.store.table }
  | .commitTxn succeeds => s.saved.map fun saved =>
    { store := if succeeds then s.store else s.store.rollback saved }
  | .rollbackTxn => s.saved.map fun saved => { store := s.store.rollback saved }

-- Nothing blocked or unblocked so far is undone by going back to the saved table.
def UndoesNoBlock (s : State) : Prop :=
  ∀ saved ∈ s.saved, ∀ aci, aci ≠ .nil →
    saved.storedBlocked aci = s.store.table.storedBlocked aci

def KeepsBlocked (s : State) : Action → Prop
  | .load order faults aci pni updater _ =>
    LoadKeepsBlocked order faults s.store updater s.inTxn aci pni
  | .store faults r => r.aci ≠ .nil → faults.upsert = true ∨ s.store.table.upsertACI r = none →
      s.store.table.storedBlocked r.aci = r.blocked
  | .commitTxn succeeds => succeeds = false → UndoesNoBlock s
  | .rollbackTxn => UndoesNoBlock s
  | _ => True

theorem coherent_step {s t : State} {action : Action} (hs : Coherent s.store)
    (h : Guarded KeepsBlocked (fun s a t => step s a = some t) s action t) : Coherent t.store := by
  obtain ⟨hkeeps, hstep⟩ := h
  have hundo : ∀ saved ∈ s.saved, UndoesNoBlock s → Coherent (s.store.rollback saved) :=
    fun saved hsaved hundo => hs.of_table (hundo saved hsaved)
  cases action with
  | load order faults aci pni updater reports =>
    cases hstep
    exact hs.loadAndUpdateRecipient order faults s.store updater s.inTxn reports hkeeps
  | store faults r =>
    cases hstep
    exact hs.storeRecipient faults hkeeps
  | storeProfileKey faults aci key =>
    cases hstep
    exact hs.storeProfileKey faults aci key
  | isBlocked order faults aci =>
    cases hstep
    exact hs.isBlocked order faults s.inTxn s.store aci
  | beginTxn =>
    simp only [step] at hstep
    split at hstep
    · cases hstep
    · cases hstep
      exact hs
  | commitTxn succeeds =>
    obtain ⟨saved, hsaved, ht⟩ := Option.map_eq_some_iff.mp hstep
    subst ht
    cases succeeds with
    | true => exact hs
    | false => exact hundo saved hsaved (hkeeps rfl)
  | rollbackTxn =>
    obtain ⟨saved, hsaved, ht⟩ := Option.map_eq_some_iff.mp hstep
    subst ht
    exact hundo saved hsaved hkeeps

-- From an empty cache on, as long as no failure loses a change of a blocked value,
-- IsBlocked answers with the stored value after every sequence of calls.
theorem isBlocked_eq_stored {s t : State} {actions : List Action}
    (hemp : ∀ aci, s.store.blockCache aci = none)
    (hrun : Run (Guarded KeepsBlocked fun s a t => step s a = some t) s actions t)
    (order : RowOrder) (faults : Faults) (aci : UUID) :
    (∀ b, (isBlocked order faults t.inTxn t.store aci).2 = .ok b →
        b = t.store.table.storedBlocked aci) ∧
      (aci ≠ .nil →
        (isBlocked order {} t.inTxn t.store aci).2 = .ok (t.store.table.storedBlocked aci)) := by
  have hinit : Coherent s.store := by
    intro a b h
    rw [hemp a] at h
    cases h
  have ht := Run.invariant (I := fun s => Coherent s.store) (fun _ _ _ => coherent_step) hrun hinit
  exact isBlocked_result order faults t.inTxn t.store ht aci

variable (blocked : Bool)

def setBlocked : Updater :=
  ⟨fun r => ({ r with blocked := blocked }, .ok (r.blocked != blocked)), fun _ => rfl, fun _ => rfl⟩

theorem reportsBlocked_setBlocked : ReportsBlocked (setBlocked blocked) := by
  intro r h
  cases hb : r.blocked <;> cases blocked <;> simp_all [setBlocked]

def emptyState : State := { store := { table := emptyTable } }

def block (b : UInt8) (blocked : Bool) : Action :=
  .load .stored {} (.ofByte b) .nil (setBlocked blocked) (reportsBlocked_setBlocked blocked)

theorem keepsBlocked_block (s : State) (b : UInt8) (blocked : Bool) : KeepsBlocked s (block b blocked) :=
  ⟨by simp, fun h => absurd rfl h.2.1⟩

-- One user is blocked and unblocked again, and another one blocked in a transaction.
theorem isBlocked_eq_stored_blocked : ∃ t, Run (Guarded KeepsBlocked fun s a t => step s a = some t) emptyState
      [block 1 true, .beginTxn, block 2 true, .commitTxn true, block 1 false] t ∧
    (isBlocked .stored {} t.inTxn t.store (.ofByte 1)).2 = .ok false ∧
    (isBlocked .stored {} t.inTxn t.store (.ofByte 2)).2 = .ok true := by
  have hrun : Run (Guarded KeepsBlocked fun s a t => step s a = some t) emptyState
      [block 1 true, .beginTxn, block 2 true, .commitTxn true, block 1 false] _ :=
    .cons ⟨keepsBlocked_block _ 1 true, rfl⟩ <| .cons ⟨trivial, rfl⟩ <| .cons ⟨keepsBlocked_block _ 2 true, rfl⟩ <|
      .cons ⟨by rintro ⟨⟩, rfl⟩ <| .single ⟨keepsBlocked_block _ 1 false, rfl⟩
  have hres := fun aci => (isBlocked_eq_stored (fun _ => rfl) hrun .stored {} aci).2
  refine ⟨_, hrun, (hres (.ofByte 1) (by decide)).trans (congrArg Except.ok ?_),
    (hres (.ofByte 2) (by decide)).trans (congrArg Except.ok ?_)⟩
  · decide +kernel
  · decide +kernel

-- A contact is blocked inside of a transaction that is rolled back afterwards:
-- the cache still says blocked, the table has no row.
theorem isBlocked_after_rollback : ∃ t, Run (fun s a t => step s a = some t) emptyState [.beginTxn,
        .load .stored {} (.ofByte 1) .nil (setBlocked true) (reportsBlocked_setBlocked true), .rollbackTxn] t ∧
    (isBlocked .stored {} t.inTxn t.store (.ofByte 1)).2 = .ok true ∧ t.store.table.storedBlocked (.ofByte 1) = false :=
  ⟨_, .cons rfl (.cons rfl (.single rfl)), rfl, rfl⟩

end MautrixSignal.Recipients
