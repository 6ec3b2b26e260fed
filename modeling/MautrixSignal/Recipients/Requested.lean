import MautrixSignal.Recipients.Frame

namespace MautrixSignal.Recipients

open Lib Table

def MatchesRequest (aci pni : UUID) (r : Recipient) : Prop :=
  (aci ≠ .nil → r.aci = aci) ∧ (pni ≠ .nil → r.pni = pni)

def RightPerson (aci pni : UUID) (out : Outcome) : Prop :=
  out.err = none → ∃ handed returned, out.handed = some handed ∧ out.recipient = some returned ∧
    MatchesRequest aci pni handed ∧ MatchesRequest aci pni returned

-- If both identifiers are given, then either no row has one of them, or one row
-- has both, or the PNI row is a row without an ACI next to the ACI row.
def PairRecorded (table : Table) (aci pni : UUID) : Prop :=
  aci ≠ .nil → pni ≠ .nil →
    (∀ row ∈ table.rows, row.aci ≠ some aci ∧ row.pni ≠ some pni) ∨
    (∃ row ∈ table.rows, row.aci = some aci ∧ row.pni = some pni) ∨
    (∃ row ∈ table.rows, row.aci = some aci) ∧
      ∃ row ∈ table.rows, row.pni = some pni ∧ row.scannedACI = .nil

instance (table : Table) (aci pni : UUID) : Decidable (PairRecorded table aci pni) := by
  unfold PairRecorded
  infer_instance

theorem MatchesRequest.run {aci pni : UUID} {r : Recipient} (h : MatchesRequest aci pni r)
    (updater : Updater) : MatchesRequest aci pni (updater.run r).1 := by
  refine ⟨fun ha => ?_, fun hp => ?_⟩
  · rw [updater.keeps_aci]; exact h.1 ha
  · rw [updater.keeps_pni]; exact h.2 hp

theorem MatchesRequest.fill {aci pni : UUID} {r : Recipient} (h : MatchesRequest aci pni r) :
    MatchesRequest aci pni (r.fill aci pni) := by
  refine ⟨fun ha => ?_, fun hp => ?_⟩
  · simp [Recipient.fill, h.1 ha]
  · simp [Recipient.fill, h.2 hp]

section RightPerson

variable (faults : Faults) (s : Store) {aci pni : UUID} (updater : Updater) {table : Table} {row : Row}

theorem rightPerson_updateSingle (entry : Option Row)
    (h : MatchesRequest aci pni ((entry.map scanRecipient).getD { aci := aci, pni := pni })) :
    RightPerson aci pni (updateSingle faults s aci pni entry updater) := by
  simp only [updateSingle]
  have hrun := h.run updater
  generalize (entry.map scanRecipient).getD { aci := aci, pni := pni } = handed at h hrun ⊢
  cases (updater.run handed).2 with
  | error text => exact fun _ => ⟨handed, _, rfl, rfl, h, hrun⟩
  | ok changed =>
    simp only
    split
    · exact fun _ => ⟨handed, _, rfl, rfl, h, hrun⟩
    · split
      · split <;> exact fun _ => ⟨handed, _, rfl, rfl, h, hrun.fill⟩
      · exact fun _ => ⟨handed, _, rfl, rfl, h, hrun.fill⟩

theorem mergeRecipients_handed (first second : Recipient) :
    (mergeRecipients faults s first second updater).handed = some (combine first second) := by
  simp only [mergeRecipients]
  split
  · rfl
  · split
    · rfl
    · split <;> rfl

theorem rightPerson_mergeRecipients {first second : Recipient} (h : MatchesRequest aci pni (combine first second)) :
    RightPerson aci pni (mergeRecipients faults s first second updater) := by
  intro _
  exact ⟨_, _, mergeRecipients_handed faults s updater first second,
    mergeRecipients_recipient faults s updater first second, h, h.run updater⟩

theorem RightPerson.cacheResult {out : Outcome} (h : RightPerson aci pni out) :
    RightPerson aci pni (cacheResult out) := by
  unfold Recipients.cacheResult
  split
  · split <;> exact h
  · exact h

theorem RightPerson.doTxn {inTxn : Bool} {fn : Store → Outcome} (h : RightPerson aci pni (fn s)) :
    RightPerson aci pni (doTxn inTxn faults s fn) := by
  simp only [Recipients.doTxn]
  split_ifs
  · exact h
  · intro herr
    cases herr
  · exact h
  · intro herr
    cases herr
  · exact h

variable (order : RowOrder)

theorem mem_matchingRows (ha : aci ≠ .nil) (hp : pni ≠ .nil) (h : FoundBy table aci pni row) :
    row ∈ matchingRows order table aci pni := by
  have hrows : matchingRows order table aci pni = order.arrange (table.byACIOrPNI aci pni) := by
    simp [matchingRows, ha, hp]
  rw [hrows]
  exact (order.perm _).mem_iff.mpr (mem_byACIOrPNI.mpr h)

theorem single_has_both (ha : aci ≠ .nil) (hp : pni ≠ .nil) (hrec : PairRecorded table aci pni)
    (hrows : matchingRows order table aci pni = [row]) (hfound : FoundBy table aci pni row) :
    row.aci = some aci ∧ row.pni = some pni := by
  have honly : ∀ row', FoundBy table aci pni row' → row' = row := by
    intro row' h
    have hmem := mem_matchingRows order ha hp h
    rw [hrows] at hmem
    exact List.mem_singleton.mp hmem
  rcases hrec ha hp with hnone | ⟨row', hm, hka, hkp⟩ | ⟨⟨row', hm, hka⟩, row'', hm', hkp, _⟩
  · obtain ⟨hm, ⟨_, hk⟩ | ⟨_, hk⟩⟩ := hfound
    · exact absurd hk (hnone row hm).1
    · exact absurd hk (hnone row hm).2
  · have heq := honly row' ⟨hm, .inl ⟨ha, hka⟩⟩
    rw [← heq]
    exact ⟨hka, hkp⟩
  · have heq := honly row' ⟨hm, .inl ⟨ha, hka⟩⟩
    have heq' := honly row'' ⟨hm', .inr ⟨hp, hkp⟩⟩
    exact ⟨heq ▸ hka, heq' ▸ hkp⟩

theorem matchesRequest_single {entry : Option Row} (hrec : PairRecorded table aci pni)
    (hrows : matchingRows order table aci pni = entry.toList) (hentry : ∀ row ∈ entry, FoundBy table aci pni row) :
    MatchesRequest aci pni ((entry.map scanRecipient).getD { aci := aci, pni := pni }) := by
  cases entry with
  | none => exact ⟨fun _ => rfl, fun _ => rfl⟩
  | some row =>
    have hfound := hentry row rfl
    by_cases ha : aci = .nil
    · refine ⟨fun h => absurd ha h, fun hp => ?_⟩
      rcases hfound.2 with ⟨h, _⟩ | ⟨_, hk⟩
      · exact absurd ha h
      · simp [scanRecipient, Row.scannedPNI, hk]
    · by_cases hp : pni = .nil
      · refine ⟨fun _ => ?_, fun h => absurd hp h⟩
        rcases hfound.2 with ⟨_, hk⟩ | ⟨h, _⟩
        · simp [scanRecipient, Row.scannedACI, hk]
        · exact absurd hp h
      · obtain ⟨hka, hkp⟩ := single_has_both order ha hp hrec hrows hfound
        refine ⟨fun _ => ?_, fun _ => ?_⟩
        · simp [scanRecipient, Row.scannedACI, hka]
        · simp [scanRecipient, Row.scannedPNI, hkp]

theorem pniRow_of_pairRecorded {row' : Row} (ha : aci ≠ .nil) (hp : pni ≠ .nil)
    (hrec : PairRecorded table aci pni) (hne : row ≠ row') (hrow : table.byACI aci = some row)
    (hrow' : table.byPNI pni = some row') : row'.scannedACI = .nil := by
  obtain ⟨hm, hk⟩ := byACI_mem hrow
  obtain ⟨hm', hk'⟩ := byPNI_mem hrow'
  rcases hrec ha hp with hnone | ⟨both, hmb, hka, hkp⟩ | ⟨_, other, hmo, hkp, hnil⟩
  · exact absurd hk (hnone row hm).1
  · have heq := table.unique.aci.eq_of_key hm hmb hk hka
    have heq' := eq_of_pni hm' hmb hk' hkp
    exact absurd (heq.trans heq'.symm) hne
  · rw [eq_of_pni hm' hmo hk' hkp]
    exact hnil

theorem rightPerson_of_pairRecorded (inTxn : Bool) (hrec : PairRecorded s.table aci pni) :
    RightPerson aci pni (loadAndUpdateRecipient order faults inTxn s aci pni updater) := by
  unfold loadAndUpdateRecipient
  split
  · intro herr
    cases herr
  next hgiven =>
    refine (RightPerson.doTxn faults s ?_).cacheResult
    by_cases hsel : faults.select
    · intro herr
      simp [loadAndUpdateInTxn, hsel] at herr
    have hsel : faults.select = false := by simpa using hsel
    rcases matchingRows_cases order s.table hgiven with
      ⟨entry, hrows, hentry⟩ | ⟨ha, hp, row, row', hne, hrow, hrow', hrows⟩
    · rw [loadAndUpdateInTxn_single order faults s updater entry hsel hrows]
      exact rightPerson_updateSingle faults s updater entry
        (matchesRequest_single order hrec hrows hentry)
    · have hnil := pniRow_of_pairRecorded ha hp hrec hne hrow hrow'
      rw [loadAndUpdateInTxn_merge order faults s updater ha hsel hrow hnil hrows]
      have hfirst : (scanRecipient row).aci ≠ .nil := by rwa [scanRecipient_aci hrow]
      have hmatch : MatchesRequest aci pni (combine (scanRecipient row) (scanRecipient row')) :=
        ⟨fun _ => (combine_aci hfirst).trans (scanRecipient_aci hrow),
          fun _ => (combine_pni hfirst).trans (scanRecipient_pni hrow')⟩
      intro herr
      refine rightPerson_mergeRecipients faults s updater hmatch ?_
      simpa using herr

end RightPerson

section Succeeds

variable {r : Recipient}

def PNIFree (table : Table) (r : Recipient) : Prop :=
  ∀ row ∈ table.rows, row.aci ≠ some r.aci → r.pni ≠ .nil → row.pni ≠ some r.pni

theorem upsertACI_ok {table : Table} (hfree : PNIFree table r) : ∃ table', table.upsertACI r = some table' := by
  have hunique : Unique (upsertOn Row.aci r.aci (fun old => { aciColumns r with aci := old.aci })
      (aciColumns r) table.rows) := by
    constructor
    · exact table.unique.aci.upsertOn_self (fun _ => rfl) rfl
    · refine table.unique.aci.upsertOn_other (c := nullableUUID r.pni) table.unique.pni
        (fun _ => rfl) rfl ?_
      intro row hm hk
      by_cases hp : r.pni = .nil
      · exact .inl (by simp [nullableUUID, hp])
      · refine .inr ?_
        simpa [nullableUUID, hp] using hfree row hm hk hp
  exact ⟨⟨_, hunique⟩, by simp [upsertACI, ofRows?, hunique]⟩

theorem storeRecipient_ok {s : Store} (ha : r.aci ≠ .nil) (hfree : PNIFree s.table r) :
    (s.storeRecipient {} r).2 = none := by
  obtain ⟨table', h⟩ := upsertACI_ok hfree
  simp [Store.storeRecipient, ha, h]

theorem deleteOldPNIRow_ok (s : Store) (aci : UUID) (out : Recipient) : (deleteOldPNIRow {} s aci out).2 = none := by
  unfold deleteOldPNIRow
  split <;> rfl

variable (s : Store) {aci pni : UUID}

theorem updateSingle_noop_ok {row : Row} (ha : ((scanRecipient row).fill aci pni).aci ≠ .nil)
    (hfree : PNIFree (deleteOldPNIRow {} s aci (scanRecipient row)).1.table ((scanRecipient row).fill aci pni)) :
    ∃ s' r, updateSingle {} s aci pni (some row) .noop = ⟨s', some r, none, some (scanRecipient row)⟩ := by
  have hdel := deleteOldPNIRow_ok s aci (scanRecipient row)
  have hstore := storeRecipient_ok ha hfree
  simp only [updateSingle, Updater.noop, Option.map_some, Option.getD_some]
  generalize deleteOldPNIRow {} s aci (scanRecipient row) = deleted at hdel hstore
  obtain ⟨s', err⟩ := deleted
  subst hdel
  simp only at hstore ⊢
  generalize s'.storeRecipient {} ((scanRecipient row).fill aci pni) = stored at hstore
  obtain ⟨s'', err⟩ := stored
  subst hstore
  by_cases hlacks : (scanRecipient row).lacks aci pni
  · exact ⟨s'', _, by simp [hlacks]; rfl⟩
  · exact ⟨s', _, by simp [hlacks]; rfl⟩

theorem mergeRecipients_noop_ok (first second : Recipient) (hf : first.aci ≠ .nil) :
    (mergeRecipients {} s first second .noop).err = none := by
  have hfree : PNIFree (s.table.deleteByPNI (combine first second).pni) (combine first second) := by
    intro row hm _ _
    simpa using (List.mem_filter.mp hm).2
  have hstore := storeRecipient_ok
    (s := { s with table := s.table.deleteByPNI (combine first second).pni })
    (by rwa [combine_aci hf]) hfree
  simp only [mergeRecipients, Updater.noop, Store.deleteRecipientByPNI, Bool.false_eq_true, if_false]
  generalize Store.storeRecipient {} _ (combine first second) = stored at hstore
  obtain ⟨s', err⟩ := stored
  subst hstore
  rfl

theorem deleteOldPNIRow_subset (faults : Faults) {out : Recipient} {row : Row}
    (h : row ∈ (deleteOldPNIRow faults s aci out).1.table.rows) : row ∈ s.table.rows := by
  unfold deleteOldPNIRow Store.deleteRecipientByPNI at h
  split at h
  · split at h
    · exact h
    · exact (List.mem_filter.mp h).1
  · exact h

theorem pniFree_fill (order : RowOrder) (faults : Faults) (entry : Option Row) {out : Recipient}
    (hrows : matchingRows order s.table aci pni = entry.toList)
    (hentry : ∀ row ∈ entry, FoundBy s.table aci pni row)
    (ha : out.aci = ((entry.map scanRecipient).getD { aci := aci, pni := pni }).aci)
    (hp : out.pni = ((entry.map scanRecipient).getD { aci := aci, pni := pni }).pni)
    (hdel : (deleteOldPNIRow faults s aci out).2 = none) (hnil : (out.fill aci pni).aci ≠ .nil) :
    PNIFree (deleteOldPNIRow faults s aci out).1.table (out.fill aci pni) := by
  intro other hmo hne hpni hpo
  have hsub := deleteOldPNIRow_subset s faults hmo
  -- If the PNI that was given is new for the row, then no row has it.
  have hnew : out.pni = .nil ∨ entry = none → False := by
    intro hold
    have hgiven : pni ≠ .nil := by
      intro h
      rcases hold with hold | hold
      · exact hpni (by simp [Recipient.fill, hold, h])
      · subst hold
        exact hpni (by simp [Recipient.fill, hp, h])
    have hfill : (out.fill aci pni).pni = pni := by
      rcases hold with hold | hold
      · simp [Recipient.fill, hold, hgiven]
      · subst hold
        simp [Recipient.fill, hp]
    have haci : aci ≠ .nil := by
      intro h
      cases entry with
      | none =>
        exact hnil (by simp [Recipient.fill, ha, h])
      | some row =>
        rcases (hentry row rfl).2 with ⟨h', _⟩ | ⟨_, hk⟩
        · exact h' h
        · have hscan : out.pni = pni := by rw [hp]; simp [scanRecipient, Row.scannedPNI, hk]
          rcases hold with hold | hold
          · exact hgiven (hscan ▸ hold)
          · cases hold
    rw [hfill] at hpo
    have hmem := mem_matchingRows order haci hgiven ⟨hsub, .inr ⟨hgiven, hpo⟩⟩
    rw [hrows] at hmem
    cases entry with
    | none => cases hmem
    | some row =>
      have heq : other = row := by simpa using hmem
      have hscan : out.pni = pni := by
        rw [hp, ← heq]
        simp [scanRecipient, Row.scannedPNI, hpo]
      rcases hold with hold | hold
      · exact hgiven (hscan ▸ hold)
      · cases hold
  cases entry with
  | none => exact hnew (.inr rfl)
  | some row =>
    by_cases hscan : out.pni = .nil
    · exact hnew (.inl hscan)
    have hfill : (out.fill aci pni).pni = out.pni := by simp [Recipient.fill, hscan]
    rw [hfill] at hpo
    have hrp : row.pni = some out.pni := by
      rw [hp] at hscan ⊢
      exact Row.pni_of_scanned hscan
    have heq := eq_of_pni hsub (hentry row rfl).1 hpo hrp
    subst heq
    by_cases hraci : out.aci = .nil
    · have haci : aci ≠ .nil := by
        intro h
        exact hnil (by simp [Recipient.fill, hraci, h])
      rw [deleteOldPNIRow, if_pos ⟨hscan, hraci, haci⟩] at hmo hdel
      unfold Store.deleteRecipientByPNI at hmo hdel
      split at hmo
      · simp_all
      · have hkept := (List.mem_filter.mp hmo).2
        simp [hpo] at hkept
    · refine hne ?_
      have hfilla : (out.fill aci pni).aci = out.aci := by simp [Recipient.fill, hraci]
      rw [hfilla, ha]
      rw [ha] at hraci
      exact Row.aci_of_scanned hraci

theorem loadAndUpdateRecipient_ok (order : RowOrder) (inTxn : Bool) (updater : Updater) (ha : aci ≠ .nil)
    {s' : Store} {handed : Recipient}
    (h : loadAndUpdateInTxn order {} s aci pni updater = ⟨s', some r, none, some handed⟩) :
    (loadAndUpdateRecipient order {} inTxn s aci pni updater).err = none ∧
      (loadAndUpdateRecipient order {} inTxn s aci pni updater).handed = some handed := by
  have hdo : doTxn inTxn {} s (fun s => loadAndUpdateInTxn order {} s aci pni updater) =
      ⟨s', some r, none, some handed⟩ := by
    simp [doTxn, h]
  simp only [loadAndUpdateRecipient, ha, false_and, if_false, hdo, cacheResult]
  constructor <;> split <;> rfl

theorem RightPerson.handed {out : Outcome} (h : RightPerson aci pni out) {handed : Recipient}
    (hok : out.err = none ∧ out.handed = some handed) : MatchesRequest aci pni handed := by
  obtain ⟨handed', _, hh, _, hm, _⟩ := h hok.1
  rw [hok.2] at hh
  cases hh
  exact hm

end Succeeds

theorem exists_pniFirst {table : Table} {aci pni : UUID} {row row' : Row} (ha : aci ≠ .nil)
    (hp : pni ≠ .nil) (hne : row ≠ row') (hrow : table.byACI aci = some row) (hrow' : table.byPNI pni = some row') :
    ∃ order, matchingRows order table aci pni = [row', row] := by
  have hmat := matched_of_query .stored table ha hp
  have hquery : table.byACIOrPNI aci pni = [row, row'] ∨ table.byACIOrPNI aci pni = [row', row] := by
    generalize table.byACIOrPNI aci pni = rows at hmat ⊢
    cases hmat <;> simp_all
  rcases hquery with h | h
  · exact ⟨.reversed, by simp [matchingRows, ha, hp, RowOrder.reversed, h]⟩
  · exact ⟨.stored, by simp [matchingRows, ha, hp, RowOrder.stored, h]⟩

-- Every successful call hands out and returns the person asked for, exactly if
-- the pair asked for is already recorded or new as a whole.
theorem loadAndUpdateRecipient_rightPerson_iff (inTxn : Bool) (s : Store) (aci pni : UUID) :
    (∀ order faults updater,
        RightPerson aci pni (loadAndUpdateRecipient order faults inTxn s aci pni updater)) ↔
      PairRecorded s.table aci pni := by
  constructor
  · intro hall ha hp
    have hsingle : ∀ row, matchingRows .stored s.table aci pni = [row] →
        FoundBy s.table aci pni row → MatchesRequest aci pni (scanRecipient row) := by
      intro row hrows hfound
      have hnil : ((scanRecipient row).fill aci pni).aci ≠ .nil := by
        simp only [Recipient.fill]
        split
        · exact ha
        · next hc => exact fun hnil => hc ⟨hnil, ha⟩
      obtain ⟨s', r, hout⟩ := updateSingle_noop_ok s hnil
        (pniFree_fill s .stored {} (some row) hrows (by simpa using hfound) rfl rfl
          (deleteOldPNIRow_ok s aci _) hnil)
      rw [← loadAndUpdateInTxn_single .stored {} s .noop (some row) rfl hrows] at hout
      exact (hall .stored {} .noop).handed (loadAndUpdateRecipient_ok s .stored inTxn .noop ha hout)
    have hmat := matched_of_query .stored s.table ha hp
    have hrows : matchingRows .stored s.table aci pni =
        RowOrder.stored.arrange (s.table.byACIOrPNI aci pni) := by
      simp [matchingRows, ha, hp]
    rw [← hrows] at hmat
    generalize hm : matchingRows .stored s.table aci pni = rows at hmat
    cases hmat with
    | neither hra hrp =>
      exact .inl fun row h => ⟨selectOn_eq_none.mp hra row h, selectOn_eq_none.mp hrp row h⟩
    | both row hra hrp =>
      exact .inr (.inl ⟨row, (byACI_mem hra).1, (byACI_mem hra).2,
        (byPNI_mem hrp).2⟩)
    | onlyACI row hra hrp =>
      obtain ⟨hmem, hk⟩ := byACI_mem hra
      have h := hsingle row hm ⟨hmem, .inl ⟨ha, hk⟩⟩
      have hpni : row.pni = some pni := by
        have hscan : row.scannedPNI = pni := h.2 hp
        rw [Row.pni_of_scanned (by rwa [hscan]), hscan]
      exact absurd hpni (selectOn_eq_none.mp hrp row hmem)
    | onlyPNI row hra hrp =>
      obtain ⟨hmem, hk⟩ := byPNI_mem hrp
      have h := hsingle row hm ⟨hmem, .inr ⟨hp, hk⟩⟩
      have haci : row.aci = some aci := by
        have hscan : row.scannedACI = aci := h.1 ha
        rw [Row.aci_of_scanned (by rwa [hscan]), hscan]
      exact absurd haci (selectOn_eq_none.mp hra row hmem)
    | aciFirst row row' hne hra hrp | pniFirst row row' hne hra hrp =>
      by_cases hnil : row'.scannedACI = .nil
      · exact .inr (.inr ⟨⟨row, byACI_mem hra⟩, row', (byPNI_mem hrp).1,
          (byPNI_mem hrp).2, hnil⟩)
      -- The other person's row comes first and is handed out.
      exfalso
      obtain ⟨order, hrows⟩ := exists_pniFirst ha hp hne hra hrp
      have hout := loadAndUpdateInTxn_pair order {} s .noop rfl hrows
      have herr := mergeRecipients_noop_ok s (scanRecipient row') (scanRecipient row) hnil
      have hhanded := mergeRecipients_handed {} s .noop (scanRecipient row') (scanRecipient row)
      have hrec := mergeRecipients_recipient {} s .noop (scanRecipient row') (scanRecipient row)
      simp only [herr, hhanded, hrec] at hout
      have h := (hall order {} .noop).handed
        (loadAndUpdateRecipient_ok s order inTxn .noop ha hout)
      have hscan : row'.scannedACI = aci := by
        rw [← h.1 ha, combine_aci hnil]
        rfl
      have haci := Row.aci_of_scanned hnil
      rw [hscan] at haci
      exact hne (s.table.unique.aci.eq_of_key (byACI_mem hra).1 (byPNI_mem hrp).1
        (byACI_mem hra).2 haci)
  · intro hrec order faults updater
    exact rightPerson_of_pairRecorded faults s updater order inTxn hrec

-- The PNI is on the row of another person, who is handed out and returned.
theorem loadAndUpdateRecipient_returns_other_person :
    (loadAndUpdateRecipient .stored {} false
        { table := ⟨[{ aci := some (.ofByte 2), pni := some (.ofByte 9) }], by decide⟩ }
        (.ofByte 1) (.ofByte 9) .noop).err = none ∧
      (loadAndUpdateRecipient .stored {} false
        { table := ⟨[{ aci := some (.ofByte 2), pni := some (.ofByte 9) }], by decide⟩ }
        (.ofByte 1) (.ofByte 9) .noop).recipient.map Recipient.aci = some (.ofByte 2) := by
  decide

end MautrixSignal.Recipients
