import MautrixSignal.Identifiers
import MautrixSignal.Lib.Run
import Mathlib.Data.List.Nodup
import Mathlib.Data.List.Range

namespace MautrixSignal.PreKeys

open Lib List

inductive Kind where
  | ec
  | kyber
deriving DecidableEq

-- A row of signalmeow_pre_keys or of signalmeow_kyber_pre_keys, without the key pair. The flag is is_signed in
-- the first table and is_last_resort in the second.
structure Row where
  serviceID : ServiceID
  keyID : UInt32
  flag : Bool

structure Store where
  preKeys : List Row := []
  kyberPreKeys : List Row := []

abbrev Issued := Kind × ServiceID × UInt32

def preKeyBatchSize : UInt32 := 100

variable (store : Store)

def Store.rows : Kind → List Row
  | .ec => store.preKeys
  | .kyber => store.kyberPreKeys

def Store.setRows (rows : List Row) : Kind → Store
  | .ec => { store with preKeys := rows }
  | .kyber => { store with kyberPreKeys := rows }

variable (serviceID : ServiceID)

-- The WHERE clauses of getLastPreKeyIDQuery and getLastKyberPreKeyIDQuery.
def selects : Kind → Row → Bool
  | .ec, row => row.serviceID = serviceID && !row.flag
  | .kyber, row => row.serviceID = serviceID

variable (kind : Kind)

def Store.keyIDs (serviceID : ServiceID) : List UInt32 :=
  ((store.rows kind).filter (selects serviceID kind)).map Row.keyID

def lastKeyID (ids : List UInt32) : UInt32 := UInt32.ofNat ((ids.map UInt32.toNat).max?.getD 0)

def Store.getNextKeyID (serviceID : ServiceID) : UInt32 × UInt32 :=
  (UInt32.ofNat (store.keyIDs kind serviceID).length, lastKeyID (store.keyIDs kind serviceID) + 1)

def getNextPreKeyID : UInt32 × UInt32 := store.getNextKeyID .ec serviceID

def getNextKyberPreKeyID : UInt32 × UInt32 :=
  store.getNextKeyID .kyber serviceID

-- The primary keys: a signed pre-key and a one-time one may share their ID, two Kyber pre-keys may not.
def samePrimaryKey (row row' : Row) : Bool :=
  row.serviceID = row'.serviceID && row.keyID = row'.keyID && (kind = .kyber || row.flag = row'.flag)

def Store.insert (row : Row) : Option Store :=
  if (store.rows kind).any (samePrimaryKey kind row) then none
  else some (store.setRows (store.rows kind ++ [row]) kind)

-- The loop of GeneratePreKeys and GenerateKyberPreKeys. The bound startKeyID + count wraps as a uint32 does.
def keyIDsFrom : ℕ → UInt32 → UInt32 → List UInt32
  | 0, _, _ => []
  | n + 1, keyID, stop => if keyID < stop then keyID :: keyIDsFrom n (keyID + 1) stop else []

def generatePreKeys (startKeyID count : UInt32) : List UInt32 :=
  keyIDsFrom count.toNat startKeyID (startKeyID + count)

def saveKeys (kind : Kind) (serviceID : ServiceID) (db : ℕ → Bool) : ℕ → Store → List UInt32 → Store × List UInt32
  | _, store, [] => (store, [])
  | n, store, id :: ids =>
    match if db n then store.insert kind ⟨serviceID, id, false⟩ else none with
    | none => (store, [])
    | some store =>
      let (store, saved) := saveKeys kind serviceID db (n + 1) store ids
      (store, id :: saved)

def needsKeys (serverCount : ℤ) (storeCount : UInt32) : Bool :=
  serverCount < 50 || storeCount < UInt32.ofNat serverCount.toNat

def generateAndSaveBatch (db : ℕ → Bool) (store : Store) (serviceID : ServiceID) (serverCount : ℤ) :
    Store × List UInt32 :=
  if !db 0 then (store, [])
  else
    let (storeCount, nextKeyID) := store.getNextKeyID kind serviceID
    if needsKeys serverCount storeCount && storeCount < preKeyBatchSize then
      saveKeys kind serviceID db 1 store (generatePreKeys nextKeyID (preKeyBatchSize - storeCount))
    else (store, [])

def generateAndSaveNextPreKeyBatch : (ℕ → Bool) → Store → ServiceID → ℤ → Store × List UInt32 :=
  generateAndSaveBatch .ec

def generateAndSaveNextKyberPreKeyBatch : (ℕ → Bool) → Store → ServiceID → ℤ → Store × List UInt32 :=
  generateAndSaveBatch .kyber

def Store.deleteKey (serviceID : ServiceID) (id : UInt32) : Store :=
  store.setRows ((store.rows kind).filter fun row => !(selects serviceID kind row && row.keyID = id)) kind

def removePreKey : ServiceID → UInt32 → Store := store.deleteKey .ec

def removeKyberPreKey : ServiceID → UInt32 → Store := store.deleteKey .kyber

def isKyberPreKeyLastResort (id : UInt32) : Option Bool :=
  (store.kyberPreKeys.find? fun row => selects serviceID .kyber row && row.keyID = id).map Row.flag

def markKyberPreKeyUsed (id : UInt32) : Store :=
  match isKyberPreKeyLastResort store serviceID id with
  | none => store
  | some true => store
  | some false => removeKyberPreKey store serviceID id

def deleteAllPreKeys (_ : Store) : Store := {}

-- The keys that provisioning saves for one service ID: the signed pre-key, and the Kyber pre-key of last resort.
-- The keys of the earlier device are deleted before.
def saveProvisionedKeys (db : ℕ → Bool) (store : Store) (serviceID : ServiceID) : Store × List UInt32 :=
  match if db 0 then store.insert .ec ⟨serviceID, 1, true⟩ else none with
  | none => (store, [])
  | some signed =>
    match if db 1 then signed.insert .kyber ⟨serviceID, 1, true⟩ else none with
    | none => (signed, [])
    | some saved => (saved, [1])

inductive Event where
  | provision (db : ℕ → Bool) (serviceID : ServiceID)
  | generate (kind : Kind) (db : ℕ → Bool) (serviceID : ServiceID) (serverCount : ℤ)
  | use (kind : Kind) (serviceID : ServiceID) (id : UInt32)
  | deleteAll

def Event.run : Event → Store
  | .provision db serviceID => (saveProvisionedKeys db store serviceID).1
  | .generate .ec db serviceID serverCount => (generateAndSaveNextPreKeyBatch db store serviceID serverCount).1
  | .generate .kyber db serviceID serverCount =>
    (generateAndSaveNextKyberPreKeyBatch db store serviceID serverCount).1
  | .use .ec serviceID id => removePreKey store serviceID id
  | .use .kyber serviceID id => markKyberPreKeyUsed store serviceID id
  | .deleteAll => deleteAllPreKeys store

def Event.issues : Event → List Issued
  | .provision db serviceID => (saveProvisionedKeys db store serviceID).2.map (.kyber, serviceID, ·)
  | .generate kind db serviceID serverCount =>
    (generateAndSaveBatch kind db store serviceID serverCount).2.map (kind, serviceID, ·)
  | .use .. => []
  | .deleteAll => []

-- A key is used only while one with a higher ID is stored, and the other deletions and provisioning find no keys.
def KeepsLast : Event → Prop
  | .provision _ serviceID => store.keyIDs .kyber serviceID = []
  | .generate .. => True
  | .use .ec serviceID id => id ∈ store.keyIDs .ec serviceID → ∃ later ∈ store.keyIDs .ec serviceID, id < later
  | .use .kyber serviceID id =>
    isKyberPreKeyLastResort store serviceID id = some false → ∃ later ∈ store.keyIDs .kyber serviceID, id < later
  | .deleteAll => ∀ kind serviceID, store.keyIDs kind serviceID = []

-- No ID was issued twice, and a key at or above each issued one is stored. The highest uint32 is never issued, so
-- the next ID does not wrap.
structure Fresh (s : Store × List Issued) : Prop where
  nodup : s.2.Nodup
  reached : ∀ kind serviceID id, (kind, serviceID, id) ∈ s.2 → ∃ later ∈ s.1.keyIDs kind serviceID, id ≤ later
  bounded : ∀ kind serviceID, ∀ id ∈ s.1.keyIDs kind serviceID, id.toNat + 1 < 2 ^ 32

theorem toNat_lastKeyID (ids : List UInt32) : (lastKeyID ids).toNat = (ids.map UInt32.toNat).max?.getD 0 := by
  apply Nat.mod_eq_of_lt
  cases hids : (ids.map UInt32.toNat).max? with
  | none => decide
  | some last =>
    obtain ⟨id, -, rfl⟩ := mem_map.mp (max?_mem hids)
    exact id.toNat_lt

theorem lastKeyID_bounded {ids : List UInt32} (h : ∀ id ∈ ids, id.toNat + 1 < 2 ^ 32) :
    (lastKeyID ids).toNat + 1 < 2 ^ 32 := by
  rw [toNat_lastKeyID]
  cases hids : (ids.map UInt32.toNat).max? with
  | none => decide
  | some last =>
    obtain ⟨id, hid, rfl⟩ := mem_map.mp (max?_mem hids)
    exact h id hid

theorem le_lastKeyID {ids : List UInt32} {id : UInt32} (hid : id ∈ ids) : id ≤ lastKeyID ids := by
  rw [UInt32.le_iff_toNat_le, toNat_lastKeyID]
  exact le_max?_getD_of_mem (mem_map_of_mem hid)

theorem toNat_keyIDsFrom (n : ℕ) (keyID stop : UInt32) :
    (keyIDsFrom n keyID stop).map UInt32.toNat = List.range' keyID.toNat (min n (stop.toNat - keyID.toNat)) := by
  induction n generalizing keyID with
  | zero => simp [keyIDsFrom]
  | succ n ih =>
    by_cases hlt : keyID < stop
    · have hnat := UInt32.lt_iff_toNat_lt.mp hlt
      have hstop := stop.toNat_lt
      have hone : (1 : UInt32).toNat = 1 := rfl
      have hsucc : (keyID + 1).toNat = keyID.toNat + 1 := by
        rw [UInt32.toNat_add, hone]
        omega
      have hcount : min (n + 1) (stop.toNat - keyID.toNat) =
          min n (stop.toNat - (keyID.toNat + 1)) + 1 := by
        omega
      rw [keyIDsFrom, if_pos hlt, map_cons, ih, hsucc, hcount, List.range'_succ]
    · have hle : stop.toNat - keyID.toNat = 0 := by
        rw [UInt32.lt_iff_toNat_lt] at hlt
        omega
      simp [keyIDsFrom, hlt, hle]

theorem generatePreKeys_spec {startKeyID count id : UInt32} (hid : id ∈ generatePreKeys startKeyID count) :
    startKeyID ≤ id ∧ id.toNat + 1 < 2 ^ 32 := by
  have hmem : id.toNat ∈ (generatePreKeys startKeyID count).map UInt32.toNat := mem_map_of_mem hid
  rw [generatePreKeys, toNat_keyIDsFrom, mem_range'_1] at hmem
  have hstop := (startKeyID + count).toNat_lt
  rw [UInt32.le_iff_toNat_le]
  omega

theorem nodup_generatePreKeys (startKeyID count : UInt32) : (generatePreKeys startKeyID count).Nodup := by
  apply List.Nodup.of_map UInt32.toNat
  rw [generatePreKeys, toNat_keyIDsFrom]
  exact nodup_range'

section Tables

variable {store store' : Store} {kind : Kind} {serviceID : ServiceID} {row : Row} {serviceID' : ServiceID}
  {id : UInt32}

theorem keyIDs_setRows_of_ne {rows : List Row} {kind' : Kind} (hne : kind' ≠ kind) :
    (store.setRows rows kind).keyIDs kind' serviceID = store.keyIDs kind' serviceID := by
  cases kind with
  | ec =>
    cases kind' with
    | ec => exact absurd rfl hne
    | kyber => rfl
  | kyber =>
    cases kind' with
    | ec => rfl
    | kyber => exact absurd rfl hne

theorem rows_setRows {rows : List Row} : (store.setRows rows kind).rows kind = rows := by
  cases kind with
  | ec => rfl
  | kyber => rfl

theorem insert_eq (h : store.insert kind row = some store') :
    store' = store.setRows (store.rows kind ++ [row]) kind := by
  unfold Store.insert at h
  split at h
  · cases h
  · exact (Option.some.inj h).symm

theorem keyIDs_insert (h : store.insert kind row = some store') (kind' : Kind) (serviceID' : ServiceID) :
    store'.keyIDs kind' serviceID' = store.keyIDs kind' serviceID' ++
      if kind' = kind ∧ selects serviceID' kind row then [row.keyID] else [] := by
  obtain rfl := insert_eq h
  by_cases hkind : kind' = kind
  · subst hkind
    by_cases hselects : selects serviceID' kind' row = true <;> simp [Store.keyIDs, rows_setRows, hselects]
  · rw [keyIDs_setRows_of_ne hkind]
    simp [hkind]

theorem selects_oneTime : selects serviceID' kind ⟨serviceID, id, false⟩ = true ↔ serviceID' = serviceID := by
  cases kind with
  | ec | kyber => simp [selects, eq_comm]

theorem eq_of_selects (h : selects serviceID kind row = true) (h' : selects serviceID' kind row = true) :
    serviceID = serviceID' := by
  cases kind with
  | ec =>
    simp only [selects, Bool.and_eq_true, decide_eq_true_eq] at h h'
    rw [← h.1, h'.1]
  | kyber =>
    simp only [selects, decide_eq_true_eq] at h h'
    rw [← h, h']

theorem mem_keyIDs : id ∈ store.keyIDs kind serviceID ↔
    ∃ row ∈ store.rows kind, selects serviceID kind row = true ∧ row.keyID = id := by
  simp [Store.keyIDs, and_assoc]

theorem mem_keyIDs_deleteKey {id' : UInt32} {kind' : Kind} :
    id' ∈ (store.deleteKey kind serviceID id).keyIDs kind' serviceID' ↔
      id' ∈ store.keyIDs kind' serviceID' ∧ ¬ (kind' = kind ∧ serviceID' = serviceID ∧ id' = id) := by
  by_cases hkind : kind' = kind
  · subst hkind
    simp only [mem_keyIDs, Store.deleteKey, rows_setRows, mem_filter]
    constructor
    · rintro ⟨row, ⟨hrow, hkept⟩, hselects, rfl⟩
      refine ⟨⟨row, hrow, hselects, rfl⟩, ?_⟩
      rintro ⟨-, rfl, rfl⟩
      simp [hselects] at hkept
    · rintro ⟨⟨row, hrow, hselects, rfl⟩, hne⟩
      refine ⟨row, ⟨hrow, ?_⟩, hselects, rfl⟩
      simp only [Bool.not_eq_true', Bool.and_eq_false_iff, decide_eq_false_iff_not]
      by_cases hdel : selects serviceID kind' row = true
      · right
        intro hid
        exact hne ⟨trivial, eq_of_selects hselects hdel, hid⟩
      · left
        simpa using hdel
  · rw [Store.deleteKey, keyIDs_setRows_of_ne hkind]
    simp [hkind]

def Adds (store store' : Store) (kind : Kind) (serviceID : ServiceID) (saved : List UInt32) : Prop :=
  ∀ kind' serviceID', store'.keyIDs kind' serviceID' = store.keyIDs kind' serviceID' ++
    if kind' = kind ∧ serviceID' = serviceID then saved else []

theorem adds_saveKeys (kind : Kind) (serviceID : ServiceID) (db : ℕ → Bool) (n : ℕ) (store : Store)
    (ids : List UInt32) :
    (saveKeys kind serviceID db n store ids).2 <+: ids ∧
      Adds store (saveKeys kind serviceID db n store ids).1 kind serviceID
        (saveKeys kind serviceID db n store ids).2 := by
  induction ids generalizing n store with
  | nil => exact ⟨ nil_prefix, fun _ _ => by simp [saveKeys]⟩
  | cons id ids ih =>
    rw [saveKeys]
    split
    · exact ⟨ nil_prefix, fun _ _ => by simp⟩
    rename_i inserted hins
    obtain ⟨hinit, hadds⟩ := ih (n + 1) inserted
    refine ⟨(prefix_cons_inj id).mpr hinit, ?_⟩
    intro kind' serviceID'
    rw [Option.ite_none_right_eq_some] at hins
    rw [hadds, keyIDs_insert hins.2, append_assoc]
    by_cases hsame : kind' = kind ∧ serviceID' = serviceID
    · obtain ⟨rfl, rfl⟩ := hsame
      simp [selects_oneTime]
    · simp [selects_oneTime, hsame]

end Tables

section Steps

variable {store store' : Store} {issued : List Issued} {kind : Kind} {serviceID : ServiceID}

theorem Fresh.add (h : Fresh (store, issued)) {saved : List UInt32} (hadds : Adds store store' kind serviceID saved)
    (hnodup : saved.Nodup) (hnew : ∀ id ∈ saved, ∀ old ∈ store.keyIDs kind serviceID, old < id)
    (hbound : ∀ id ∈ saved, id.toNat + 1 < 2 ^ 32) : Fresh (store', issued ++ saved.map (kind, serviceID, ·)) := by
  constructor
  · refine nodup_append.mpr ⟨h.nodup, ?_, ?_⟩
    · exact hnodup.map fun id id' heq => (Prod.mk.inj (Prod.mk.inj heq).2).2
    · rintro key hold _ hkey rfl
      obtain ⟨id, hid, rfl⟩ := mem_map.mp hkey
      obtain ⟨later, hlater, hle⟩ := h.reached _ _ _ hold
      exact absurd hle (UInt32.not_le.mpr (hnew id hid later hlater))
  · intro kind' serviceID' id hid
    rw [hadds kind' serviceID']
    rcases mem_append.mp hid with hold | hsaved
    · obtain ⟨later, hlater, hle⟩ := h.reached _ _ _ hold
      exact ⟨later, mem_append_left _ hlater, hle⟩
    · obtain ⟨_, hmem, heq⟩ := mem_map.mp hsaved
      obtain ⟨rfl, rfl, rfl⟩ := heq
      refine ⟨id, mem_append_right _ ?_, UInt32.le_refl id⟩
      rwa [if_pos ⟨rfl, rfl⟩]
  · intro kind' serviceID' id hid
    rw [hadds kind' serviceID'] at hid
    rcases mem_append.mp hid with hold | hsaved
    · exact h.bounded _ _ id hold
    · split at hsaved
      · exact hbound id hsaved
      · cases hsaved

theorem Fresh.remove (h : Fresh (store, issued))
    (hsub : ∀ kind serviceID, store'.keyIDs kind serviceID ⊆ store.keyIDs kind serviceID)
    (hlater : ∀ kind serviceID, ∀ id ∈ store.keyIDs kind serviceID,
      ∃ later ∈ store'.keyIDs kind serviceID, id ≤ later) : Fresh (store', issued) := by
  constructor
  · exact h.nodup
  · intro kind serviceID id hid
    obtain ⟨last, hlast, hle⟩ := h.reached kind serviceID id hid
    obtain ⟨later, hmem, hle'⟩ := hlater kind serviceID last hlast
    exact ⟨later, hmem, UInt32.le_trans hle hle'⟩
  · intro kind serviceID id hid
    exact h.bounded kind serviceID id (hsub kind serviceID hid)

theorem fresh_generateAndSaveBatch {db : ℕ → Bool} {serverCount : ℤ} (h : Fresh (store, issued)) :
    Fresh ((generateAndSaveBatch kind db store serviceID serverCount).1,
      issued ++ (generateAndSaveBatch kind db store serviceID serverCount).2.map (kind, serviceID, ·)) := by
  have hunchanged : Fresh (store, issued ++ ([] : List UInt32).map (kind, serviceID, ·)) := by
    simpa using h
  unfold generateAndSaveBatch
  split
  · exact hunchanged
  simp only
  split
  · obtain ⟨hinit, hadds⟩ := adds_saveKeys kind serviceID db 1 store
      (generatePreKeys (store.getNextKeyID kind serviceID).2
        (preKeyBatchSize - (store.getNextKeyID kind serviceID).1))
    refine h.add hadds (hinit.sublist.nodup (nodup_generatePreKeys _ _)) ?_ ?_
    · intro id hid old hold
      have hstart := (generatePreKeys_spec (hinit.subset hid)).1
      have hlast := lastKeyID_bounded (h.bounded kind serviceID)
      have hle := le_lastKeyID hold
      have hnext : (store.getNextKeyID kind serviceID).2.toNat =
          (lastKeyID (store.keyIDs kind serviceID)).toNat + 1 := by
        exact Nat.mod_eq_of_lt hlast
      rw [UInt32.le_iff_toNat_le] at hstart hle
      rw [UInt32.lt_iff_toNat_lt]
      omega
    · intro id hid
      exact (generatePreKeys_spec (hinit.subset hid)).2
  · exact hunchanged

theorem fresh_saveProvisionedKeys {db : ℕ → Bool} (h : Fresh (store, issued))
    (hemp : store.keyIDs .kyber serviceID = []) :
    Fresh ((saveProvisionedKeys db store serviceID).1,
      issued ++ (saveProvisionedKeys db store serviceID).2.map (.kyber, serviceID, ·)) := by
  unfold saveProvisionedKeys
  split
  · simpa using h
  rename_i signed hins
  rw [Option.ite_none_right_eq_some] at hins
  -- The signed pre-key is not seen by the query for the next ID.
  have hsame : ∀ kind serviceID', signed.keyIDs kind serviceID' = store.keyIDs kind serviceID' := by
    intro kind serviceID'
    rw [keyIDs_insert hins.2]
    simp [selects]
  have hsigned : Fresh (signed, issued) := by
    apply h.remove
    · intro kind serviceID' id hid
      rwa [hsame] at hid
    · intro kind serviceID' id hid
      rw [hsame]
      exact ⟨id, hid, UInt32.le_refl id⟩
  split
  · simpa using hsigned
  rename_i saved hlastResort
  rw [Option.ite_none_right_eq_some] at hlastResort
  refine hsigned.add ?_ (nodup_singleton 1) ?_ ?_
  · intro kind serviceID'
    rw [keyIDs_insert hlastResort.2]
    simp [selects, eq_comm]
  · intro id _ old hold
    rw [hsame, hemp] at hold
    cases hold
  · intro id hid
    obtain rfl := mem_singleton.mp hid
    decide

theorem Fresh.deleteKey (h : Fresh (store, issued)) {id : UInt32}
    (hlater : id ∈ store.keyIDs kind serviceID → ∃ later ∈ store.keyIDs kind serviceID, id < later) :
    Fresh (store.deleteKey kind serviceID id, issued) := by
  apply h.remove
  · intro kind' serviceID' id' hid'
    exact (mem_keyIDs_deleteKey.mp hid').1
  · intro kind' serviceID' id' hid'
    by_cases hdel : kind' = kind ∧ serviceID' = serviceID ∧ id' = id
    · obtain ⟨rfl, rfl, rfl⟩ := hdel
      obtain ⟨later, hmem, hlt⟩ := hlater hid'
      refine ⟨later, mem_keyIDs_deleteKey.mpr ⟨hmem, ?_⟩, UInt32.le_of_lt hlt⟩
      rintro ⟨-, -, rfl⟩
      exact UInt32.lt_irrefl _ hlt
    · exact ⟨id', mem_keyIDs_deleteKey.mpr ⟨hid', hdel⟩, UInt32.le_refl id'⟩

theorem fresh_markKyberPreKeyUsed (h : Fresh (store, issued)) {id : UInt32}
    (hlater : isKyberPreKeyLastResort store serviceID id = some false →
      ∃ later ∈ store.keyIDs .kyber serviceID, id < later) :
    Fresh (markKyberPreKeyUsed store serviceID id, issued) := by
  unfold markKyberPreKeyUsed
  split
  · exact h
  · exact h
  · rename_i honeTime
    apply h.deleteKey
    intro _
    exact hlater honeTime

theorem fresh_run {event : Event} (h : Fresh (store, issued)) (hkeeps : KeepsLast store event) :
    Fresh (event.run store, issued ++ event.issues store) := by
  cases event with
  | provision db serviceID => exact fresh_saveProvisionedKeys h hkeeps
  | generate kind db serviceID serverCount =>
    cases kind with
    | ec | kyber => exact fresh_generateAndSaveBatch h
  | use kind serviceID id =>
    rw [Event.issues, append_nil]
    cases kind with
    | ec => exact h.deleteKey hkeeps
    | kyber => exact fresh_markKyberPreKeyUsed h hkeeps
  | deleteAll =>
    rw [Event.issues, append_nil]
    apply h.remove
    · intro kind serviceID id hid
      cases kind with
      | ec | kyber => cases hid
    · intro kind serviceID id hid
      rw [hkeeps kind serviceID] at hid
      cases hid

end Steps

abbrev KeyRun (guard : Store → Event → Prop) : Store × List Issued → List Event → Store × List Issued → Prop :=
  Run (Recorded Event.issues (Guarded guard fun store event store' => event.run store = store'))

-- In every run that never uses the last key of a kind and service and never deletes all of them, no ID is issued
-- twice within a kind and service.
theorem issued_keyIDs_nodup {events : List Event} {store : Store} {issued : List Issued}
    (hrun : KeyRun KeepsLast ({}, []) events (store, issued)) : issued.Nodup := by
  have hfresh : Fresh (store, issued) := by
    refine hrun.invariant (I := Fresh) ?_ ?_
    · rintro ⟨store, issued⟩ event ⟨_, _⟩ h ⟨⟨hkeeps, rfl⟩, rfl⟩
      exact fresh_run h hkeeps
    · constructor
      · exact nodup_nil
      · intro kind serviceID id hid
        cases hid
      · intro kind serviceID id hid
        cases kind with
        | ec | kyber => cases hid
  exact hfresh.nodup

theorem KeyRun.step {guard : Store → Event → Prop} {s t : Store × List Issued} {event : Event} {events : List Event}
    (h : guard s.1 event) (hrest : KeyRun guard (event.run s.1, s.2 ++ event.issues s.1) events t) :
    KeyRun guard s (event :: events) t :=
  .cons ⟨⟨h, rfl⟩, rfl⟩ hrest

def sampleACI : ServiceID := newACIServiceID (UUID.ofByte 1)

def useBetweenBatches (id : UInt32) : List Event :=
  [.provision (fun _ => true) sampleACI, .generate .ec (fun _ => true) sampleACI 0, .use .ec sampleACI id,
    .generate .ec (fun _ => true) sampleACI 0]

theorem issued_keyIDs_nodup_first : ∃ store issued, KeyRun KeepsLast ({}, []) (useBetweenBatches 1) (store, issued) ∧
    (.ec, sampleACI, 101) ∈ issued ∧ issued.Nodup := by
  have hrun : ∃ store issued, KeyRun KeepsLast ({}, []) (useBetweenBatches 1) (store, issued) ∧
      (.ec, sampleACI, 101) ∈ issued := by
    refine ⟨_, _, KeyRun.step rfl (KeyRun.step trivial (KeyRun.step ?_ (KeyRun.step trivial (.refl _)))), ?_⟩
    · unfold KeepsLast
      decide +kernel
    · decide +kernel
  obtain ⟨store, issued, hrun, hissued⟩ := hrun
  exact ⟨store, issued, hrun, hissued, issued_keyIDs_nodup hrun⟩

-- Once the key with the highest ID is used, the next batch starts with its ID.
theorem used_last_keyID_issued_again : ∃ store issued,
    KeyRun (fun _ _ => True) ({}, []) (useBetweenBatches 100) (store, issued) ∧
    issued.count (.ec, sampleACI, 100) = 2 ∧ ¬ issued.Nodup := by
  have hrun : ∃ store issued, KeyRun (fun _ _ => True) ({}, []) (useBetweenBatches 100) (store, issued) ∧
      issued.count (.ec, sampleACI, 100) = 2 := by
    refine ⟨_, _, KeyRun.step trivial (KeyRun.step trivial (KeyRun.step trivial
      (KeyRun.step trivial (.refl _)))), ?_⟩
    decide +kernel
  obtain ⟨store, issued, hrun, hcount⟩ := hrun
  refine ⟨store, issued, hrun, hcount, ?_⟩
  intro hnodup
  have hle := nodup_iff_count_le_one.mp hnodup (.ec, sampleACI, 100)
  omega

end MautrixSignal.PreKeys
