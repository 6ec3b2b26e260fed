import Mathlib.Data.List.AList
import Mathlib.Data.List.Sort
import Mathlib.Data.String.Basic
import MautrixSignal.Lib.Checks
import MautrixSignal.Storage.Theorems

namespace MautrixSignal.Storage

open Lib Lib.Base64 List

-- A Go map from storage IDs to types whose keys are listed.
abbrev KeyTypes := AList fun _ : String => ItemType

def manifestRecordToMap (identifiers : List Identifier) : KeyTypes :=
  identifiers.foldl (fun types ident => types.insert (encodeToString ident.raw) ident.type) ∅

def compact : List String → List String
  | [] => []
  | [key] => [key]
  | key :: next :: rest => if key = next then compact (next :: rest) else key :: compact (next :: rest)

def splitExisting (newKeys : KeyTypes) (removedKeys : List String) : List String → KeyTypes × List String
  | [] => (newKeys, removedKeys)
  | key :: rest =>
    if (newKeys.lookup key).isSome then splitExisting ((newKeys.erase key).erase key) removedKeys rest
    else splitExisting (newKeys.erase key) (removedKeys ++ [key]) rest

structure StorageUpdate (ρ : Type) where
  version : UInt64
  newRecords : List (DecryptedStorageRecord ρ)
  removedRecords : List String
  missingRecords : List String
deriving DecidableEq

section Fetch

variable {ρ : Type} (c : Crypto ρ) (storageKey recordIKM : Bytes)

def receiveItems : KeyTypes → List StorageItem → List (DecryptedStorageRecord ρ) × KeyTypes
  | types, [] => ([], types)
  | types, item :: rest =>
    match types.lookup (encodeToString item.key), decryptStorageItem c storageKey recordIKM item with
    | some type, .ok record =>
      let (records, left) := receiveItems (types.erase (encodeToString item.key)) rest
      (⟨type, encodeToString item.key, record⟩ :: records, left)
    | _, _ => receiveItems types rest

-- What the server answers to a chunk of keys, and the orders in which Go goes through the map.
structure Answers where
  fetchChunk : Nat → List Bytes → Except StorageError (List StorageItem)
  asked : List String → List String
  missing : List String → List String

variable (answers : Answers)

def decodeKeys (keys : List String) : Except StorageError (List Bytes) :=
  keys.mapM fun key =>
    match decodeString key with
    | none => .error (.invalidStorageID key)
    | some raw => .ok raw

def fetchItems (recordKeys : List Bytes) : Except StorageError (List StorageItem) :=
  (List.range ((recordKeys.length + maxReadStorageRecords - 1) / maxReadStorageRecords)).foldlM
    (fun items n => do
      let itemChunk ← answers.fetchChunk n
        ((recordKeys.drop (n * maxReadStorageRecords)).take maxReadStorageRecords)
      return items ++ itemChunk) []

def fetchStorageRecords (inputRecords : KeyTypes) :
    Except StorageError (List (DecryptedStorageRecord ρ) × List String) := do
  let recordKeys ← decodeKeys (answers.asked inputRecords.keys)
  let items ← fetchItems answers recordKeys
  let (records, left) := receiveItems c storageKey recordIKM inputRecords items
  return (records, answers.missing left.keys)

-- FetchStorage with the key of the storage service. The server has no manifest for a version that is up to date.
def fetchStorage (answer : Except StorageError (Option StorageManifest)) (existingKeys : List String) :
    Except StorageError (Option (StorageUpdate ρ)) := do
  match ← answer with
  | none => return none
  | some encrypted =>
    let manifest ← decryptStorageManifest c storageKey encrypted
    let (newKeys, removedKeys) := splitExisting (manifestRecordToMap manifest.identifiers) []
      (compact (existingKeys.insertionSort (· ≤ ·)))
    let (newRecords, missingKeys) ← fetchStorageRecords c storageKey manifest.recordIkm answers newKeys
    return some ⟨manifest.version, newRecords, removedKeys, missingKeys⟩

end Fetch

theorem mem_manifestRecordToMap {identifiers : List Identifier} {key : String} :
    key ∈ manifestRecordToMap identifiers ↔ ∃ ident ∈ identifiers, encodeToString ident.raw = key := by
  have hfold (types : KeyTypes) : key ∈ identifiers.foldl
      (fun types ident => types.insert (encodeToString ident.raw) ident.type) types ↔
        key ∈ types ∨ ∃ ident ∈ identifiers, encodeToString ident.raw = key := by
    induction identifiers generalizing types with
    | nil => simp
    | cons ident rest ih =>
      rw [foldl_cons, ih, AList.mem_insert]
      simp only [mem_cons, exists_eq_or_imp]
      tauto
  rw [manifestRecordToMap, hfold]
  simp

theorem mem_compact {key : String} (keys : List String) : key ∈ compact keys ↔ key ∈ keys := by
  induction keys using compact.induct with
  | case1 => rfl
  | case2 => rfl
  | case3 rest next ih =>
    rw [compact, if_pos rfl, ih]
    simp
  | case4 first next rest hne ih =>
    rw [compact, if_neg hne, mem_cons, ih]
    simp

theorem compact_nodup (keys : List String) (h : keys.Pairwise (· ≤ ·)) : (compact keys).Nodup := by
  induction keys using compact.induct with
  | case1 => exact nodup_nil
  | case2 key => simp [compact]
  | case3 rest next ih =>
    rw [compact, if_pos rfl]
    exact ih h.of_cons
  | case4 first next rest hne ih =>
    rw [compact, if_neg hne, nodup_cons, mem_compact]
    refine ⟨fun hmem => hne ?_, ih h.of_cons⟩
    have hfirst := rel_of_pairwise_cons h (mem_cons_self (a := next))
    rcases mem_cons.mp hmem with heq | hrest
    · exact heq
    · exact le_antisymm hfirst (rel_of_pairwise_cons h.of_cons hrest)

theorem splitExisting_spec {existing : List String} (hnodup : existing.Nodup) (newKeys : KeyTypes)
    (removedKeys : List String) (key : String) :
    (key ∈ (splitExisting newKeys removedKeys existing).1 ↔ key ∈ newKeys ∧ key ∉ existing) ∧
      (splitExisting newKeys removedKeys existing).2.count key =
        removedKeys.count key + if key ∈ existing ∧ key ∉ newKeys then 1 else 0 := by
  induction existing generalizing newKeys removedKeys with
  | nil => simp [splitExisting]
  | cons first rest ih =>
    obtain ⟨hfirst, hrest⟩ := nodup_cons.mp hnodup
    rw [splitExisting]
    by_cases hmem : first ∈ newKeys
    · rw [if_pos (AList.lookup_isSome.mpr hmem), (ih hrest _ _).1, (ih hrest _ _).2]
      by_cases hkey : key = first
      · subst hkey
        simp [hmem, hfirst]
      · simp [hkey]
    · rw [if_neg fun h => hmem (AList.lookup_isSome.mp h), (ih hrest _ _).1, (ih hrest _ _).2]
      by_cases hkey : key = first
      · subst hkey
        simp [hmem, hfirst]
      · simp [hkey, Ne.symm hkey]

theorem count_keys (types : KeyTypes) (key : String) :
    types.keys.count key = if key ∈ types then 1 else 0 := by
  by_cases hmem : key ∈ types
  · rw [if_pos hmem, count_eq_one_of_mem types.keys_nodup (AList.mem_keys.mp hmem)]
  · rw [if_neg hmem, count_eq_zero.mpr fun h => hmem (AList.mem_keys.mpr h)]

theorem count_receiveItems {ρ : Type} (c : Crypto ρ) (storageKey recordIKM : Bytes) (types : KeyTypes)
    (items : List StorageItem) (key : String) :
    ((receiveItems c storageKey recordIKM types items).1.map DecryptedStorageRecord.storageID).count key +
        (receiveItems c storageKey recordIKM types items).2.keys.count key = types.keys.count key := by
  induction items generalizing types with
  | nil => simp [receiveItems]
  | cons item rest ih =>
    unfold receiveItems
    split
    · next type record htype _ =>
        have hmem : encodeToString item.key ∈ types := by
          rw [← AList.lookup_isSome, htype]
          rfl
        have h := ih (types.erase (encodeToString item.key))
        rw [count_keys (types.erase _)] at h
        simp only [AList.mem_erase] at h
        rw [count_keys types]
        simp only [map_cons, count_cons, beq_iff_eq]
        by_cases hkey : encodeToString item.key = key
        · subst hkey
          simp only [ne_eq, not_true_eq_false, false_and, if_false] at h
          rw [if_pos rfl, if_pos hmem]
          omega
        · simp only [ne_eq, Ne.symm hkey, not_false_eq_true, true_and] at h
          rw [if_neg hkey]
          omega
    · exact ih types

-- The records are the ones that modifyStorage reads from the same items.
theorem receiveItems_records {ρ : Type} (c : Crypto ρ) (storageKey recordIKM : Bytes) (types : KeyTypes)
    (items : List StorageItem) : (receiveItems c storageKey recordIKM types items).1 =
      decryptStorageItems c storageKey recordIKM (fun key => types.lookup key) items := by
  induction items generalizing types with
  | nil => rfl
  | cons item rest ih =>
    have herase : (fun key => (types.erase (encodeToString item.key)).lookup key) =
        IDMap.erase (fun key => types.lookup key) (encodeToString item.key) := by
      funext key
      by_cases hkey : key = encodeToString item.key
      · subst hkey
        simp [IDMap.erase]
      · simp [IDMap.erase, hkey]
    unfold receiveItems decryptStorageItems
    dsimp only
    cases types.lookup (encodeToString item.key) with
    | none => exact ih types
    | some type =>
      cases decryptStorageItem c storageKey recordIKM item with
      | error err => exact ih types
      | ok record =>
        rw [ih, herase]

-- Each key of the manifest is known, new or missing, and only one of these.
theorem fetchStorage_partitions {ρ : Type} (c : Crypto ρ) (storageKey : Bytes) (answers : Answers)
    (encrypted : StorageManifest) (manifest : ManifestRecord) (existingKeys : List String)
    (update : StorageUpdate ρ) (hmissing : ∀ keys, (answers.missing keys).Perm keys)
    (hman : decryptStorageManifest c storageKey encrypted = .ok manifest)
    (hfetch : fetchStorage c storageKey answers (.ok (some encrypted)) existingKeys = .ok (some update)) :
    (∀ key ∈ manifest.identifiers.map fun ident => encodeToString ident.raw,
      (if key ∈ existingKeys then 1 else 0) +
        (update.newRecords.map DecryptedStorageRecord.storageID).count key +
          update.missingRecords.count key = 1) ∧
    ∀ key, update.removedRecords.count key =
      if key ∈ existingKeys ∧ key ∉ manifest.identifiers.map fun ident => encodeToString ident.raw then 1
      else 0 := by
  have hkeys (key : String) : key ∈ manifestRecordToMap manifest.identifiers ↔
      key ∈ manifest.identifiers.map fun ident => encodeToString ident.raw := by
    rw [mem_manifestRecordToMap, mem_map]
  have hexisting (key : String) : key ∈ compact (existingKeys.insertionSort (· ≤ ·)) ↔ key ∈ existingKeys := by
    rw [mem_compact, mem_insertionSort]
  have hsplit := splitExisting_spec (compact_nodup _ (existingKeys.pairwise_insertionSort (· ≤ ·)))
    (manifestRecordToMap manifest.identifiers) []
  obtain ⟨fetched, ⟨⟩, hfetch⟩ := bind_eq_ok_iff.mp hfetch
  obtain ⟨manifest', hman', hfetch⟩ := bind_eq_ok_iff.mp hfetch
  obtain rfl := Except.ok.inj (hman.symm.trans hman')
  obtain ⟨⟨newRecords, missingKeys⟩, hrecs, hfetch⟩ := bind_eq_ok_iff.mp hfetch
  obtain ⟨recordKeys, -, hrecs⟩ := bind_eq_ok_iff.mp hrecs
  obtain ⟨items, -, hrecs⟩ := bind_eq_ok_iff.mp hrecs
  cases hrecs
  cases hfetch
  refine ⟨fun key hkey => ?_, fun key => ?_⟩
  · have hcount := count_receiveItems c storageKey manifest.recordIkm (splitExisting
      (manifestRecordToMap manifest.identifiers) [] (compact (existingKeys.insertionSort (· ≤ ·)))).1 items key
    rw [count_keys (splitExisting _ _ _).1] at hcount
    simp only [(hsplit key).1, hkeys, hexisting] at hcount
    rw [(hmissing _).count_eq, Nat.add_assoc, hcount]
    by_cases hold : key ∈ existingKeys <;> simp only [hold, hkey] <;> simp
  · simp [(hsplit key).2, hkeys, hexisting]

def sampleAnswers : Answers := ⟨fun _ _ => .ok [sampleItem, sampleItem], id, id⟩

def sampleUpdate : StorageUpdate Bool := ⟨1, [⟨.contact, encodeToString sampleID, false⟩], ["gone"], []⟩

theorem sample_partitions :
    fetchStorage sampleCrypto sampleKey sampleAnswers (.ok (some sampleServer.manifest)) ["gone", "gone"] =
      .ok (some sampleUpdate) ∧
    ∀ key ∈ sampleManifest.identifiers.map fun ident => encodeToString ident.raw,
      (if key ∈ ["gone", "gone"] then 1 else 0) +
        (sampleUpdate.newRecords.map DecryptedStorageRecord.storageID).count key +
          sampleUpdate.missingRecords.count key = 1 := by
  have hfetch : fetchStorage sampleCrypto sampleKey sampleAnswers (.ok (some sampleServer.manifest))
      ["gone", "gone"] = .ok (some sampleUpdate) := by decide +kernel
  exact ⟨hfetch, (fetchStorage_partitions sampleCrypto sampleKey sampleAnswers sampleServer.manifest
    sampleManifest ["gone", "gone"] sampleUpdate (fun _ => .refl _) (by decide +kernel) hfetch).1⟩

section Sync

variable {ρ : Type} {c : Crypto ρ} {storageKey : Bytes} {server server' : Server} {manifest : ManifestRecord}
  {answers : Storage.Answers} {update : StorageUpdate ρ} {edits : List (StorageEdit ρ)}
  {draws : Nat → Draw}

-- The server has a readable item for an ID of the manifest.
def Server.Stores (c : Crypto ρ) (storageKey : Bytes) (server : Server) (manifest : ManifestRecord) (raw : Bytes)
    (record : ρ) : Prop :=
  (∃ type, ⟨raw, type⟩ ∈ manifest.identifiers) ∧ ∃ value, server.items raw = some value ∧
    decryptStorageItem c storageKey manifest.recordIkm ⟨raw, value⟩ = .ok record

theorem Server.Answers.append {keys keys' : List Bytes} {items items' : List StorageItem}
    (h : server.Answers keys items) (h' : server.Answers keys' items') :
    server.Answers (keys ++ keys') (items ++ items') := by
  refine ⟨fun item hm => ?_, fun key hkey value hval => mem_append.mpr ?_⟩
  · exact (mem_append.mp hm).elim (h.stored item) (h'.stored item)
  · exact (mem_append.mp hkey).imp (h.complete key · value hval) (h'.complete key · value hval)

theorem answers_fetchItems {recordKeys : List Bytes} {items : List StorageItem}
    (hanswers : ∀ n keys chunk, answers.fetchChunk n keys = .ok chunk → server.Answers keys chunk)
    (h : fetchItems answers recordKeys = .ok items) : server.Answers recordKeys items := by
  have hall : recordKeys.take ((recordKeys.length + maxReadStorageRecords - 1) / maxReadStorageRecords *
      maxReadStorageRecords) = recordKeys := by
    refine take_of_length_le ?_
    simp only [maxReadStorageRecords]
    omega
  rw [← hall]
  unfold fetchItems at h
  -- After so many chunks their keys have been asked for.
  generalize (recordKeys.length + maxReadStorageRecords - 1) / maxReadStorageRecords = count at h
  induction count generalizing items with
  | zero =>
    cases h
    constructor <;> simp
  | succ count ih =>
    rw [range_succ, foldlM_append] at h
    obtain ⟨before, hbef, h⟩ := bind_eq_ok_iff.mp h
    rw [foldlM_cons] at h
    obtain ⟨after, hafter, ⟨⟩⟩ := bind_eq_ok_iff.mp h
    obtain ⟨chunk, hchunk, ⟨⟩⟩ := bind_eq_ok_iff.mp hafter
    rw [Nat.succ_mul, take_add]
    exact (ih hbef).append (hanswers _ _ _ hchunk)

theorem mem_decodeKeys {keys : List String} {recordKeys : List Bytes} {raw : Bytes}
    (h : decodeKeys keys = .ok recordKeys) (hm : encodeToString raw ∈ keys) : raw ∈ recordKeys := by
  induction keys generalizing recordKeys with
  | nil => cases hm
  | cons first rest ih =>
    rw [decodeKeys, mapM_cons] at h
    obtain ⟨key, hkey, h⟩ := bind_eq_ok_iff.mp h
    obtain ⟨keys, hkeys, ⟨⟩⟩ := bind_eq_ok_iff.mp h
    rcases mem_cons.mp hm with rfl | hm
    · rw [decodeString_encodeToString] at hkey
      cases hkey
      exact mem_cons_self
    · exact mem_cons_of_mem _ (ih hkeys hm)

theorem fetchStorage_reads (hman : decryptStorageManifest c storageKey server.manifest = .ok manifest)
    (hasked : ∀ keys, (answers.asked keys).Perm keys)
    (hanswers : ∀ n keys chunk, answers.fetchChunk n keys = .ok chunk → server.Answers keys chunk)
    (hfetch : fetchStorage c storageKey answers (.ok (some server.manifest)) [] = .ok (some update))
    (id : String) (record : ρ) : (∃ type, ⟨type, id, record⟩ ∈ update.newRecords) ↔
      ∃ raw, id = encodeToString raw ∧ server.Stores c storageKey manifest raw record := by
  obtain ⟨fetched, ⟨⟩, hfetch⟩ := bind_eq_ok_iff.mp hfetch
  obtain ⟨manifest', hman', hfetch⟩ := bind_eq_ok_iff.mp hfetch
  obtain rfl := Except.ok.inj (hman.symm.trans hman')
  obtain ⟨⟨newRecords, missingKeys⟩, hrecs, hfetch⟩ := bind_eq_ok_iff.mp hfetch
  obtain ⟨recordKeys, hkeys, hrecs⟩ := bind_eq_ok_iff.mp hrecs
  obtain ⟨items, hitems, hrecs⟩ := bind_eq_ok_iff.mp hrecs
  cases hrecs
  cases hfetch
  have hstored := answers_fetchItems hanswers hitems
  have hsame : Consistent items := by
    intro a ha b hb hkey
    have hval := hstored.stored a ha
    rw [hkey, hstored.stored b hb] at hval
    cases a
    cases b
    simp_all
  simp only [receiveItems_records, mem_decryptStorageItems c storageKey _ hsame]
  constructor
  · rintro ⟨type, ⟨raw, value⟩, hitem, rfl, htype, hrec⟩
    have hlisted := AList.lookup_isSome.mp (Option.isSome_of_eq_some htype)
    obtain ⟨ident, hident, hid⟩ := mem_manifestRecordToMap.mp hlisted
    cases encodeToString_injective hid
    exact ⟨_, rfl, ⟨ident.type, hident⟩, value, hstored.stored _ hitem, hrec⟩
  · rintro ⟨raw, rfl, ⟨type, hident⟩, value, hval, hrec⟩
    have hlisted := mem_manifestRecordToMap.mpr ⟨_, hident, rfl⟩
    obtain ⟨type', htype⟩ := Option.isSome_iff_exists.mp (AList.lookup_isSome.mpr hlisted)
    have hraw := mem_decodeKeys hkeys ((hasked _).mem_iff.mpr (AList.mem_keys.mp hlisted))
    exact ⟨type', _, hstored.complete _ hraw value hval, rfl, htype, hrec⟩

theorem Applied.stores {manifest' : ManifestRecord} {raw : Bytes} {record : ρ}
    (h : Applied c storageKey server server' manifest manifest' edits draws)
    (hfresh : Fresh draws edits server manifest)
    (hplain : ∀ edit ∈ edits, ∃ plaintext, c.marshalRecord edit.record = .ok plaintext ∧ plaintext ≠ []) :
    server'.Stores c storageKey manifest' raw record ↔
      (∃ a edit, edits[a]? = some edit ∧ raw = (draws a).id ∧ record = edit.record) ∨
        ¬Named edits raw ∧ server.Stores c storageKey manifest raw record := by
  have hedited {a : ℕ} {edit : StorageEdit ρ} (hedit : edits[a]? = some edit) :
      server'.Stores c storageKey manifest' (draws a).id edit.record := by
    obtain ⟨-, type, value, -, -, hident, hval, hrec⟩ := h.replaced a edit hedit
    obtain ⟨plaintext, hmarshal, hne⟩ := hplain edit (mem_of_getElem? hedit)
    exact ⟨⟨type, hident⟩, value, hval, hrec plaintext hmarshal hne⟩
  have hkept {ident : Identifier} (hold : ident ∈ manifest.identifiers) (hnamed : ¬Named edits ident.raw) :
      server'.items ident.raw = server.items ident.raw :=
    h.kept _ hnamed fun a ha => hfresh.unlisted a ha ident hold
  constructor
  · rintro ⟨⟨type, hident⟩, value, hval, hrec⟩
    rcases h.onlyIdentifiers _ hident with hold | ⟨a, ha, rfl⟩
    · have hnamed : ¬Named edits raw := fun hnamed => by simp [h.removed _ hnamed] at hval
      rw [hkept hold hnamed] at hval
      exact .inr ⟨hnamed, ⟨type, hold⟩, value, hval, h.recordIkm ▸ hrec⟩
    · have hedit := getElem?_eq_getElem ha
      obtain ⟨-, value', hvalue', hrec'⟩ := hedited hedit
      obtain rfl := Option.some.inj (hval.symm.trans hvalue')
      exact .inl ⟨a, _, hedit, rfl, Except.ok.inj (hrec.symm.trans hrec')⟩
  · rintro (⟨a, edit, hedit, rfl, rfl⟩ | ⟨hnamed, ⟨type, hold⟩, value, hval, hrec⟩)
    · exact hedited hedit
    · refine ⟨⟨type, h.keptIdentifiers _ hold hnamed⟩, value, ?_, h.recordIkm.symm ▸ hrec⟩
      rw [hkept hold hnamed]
      exact hval

-- A sync after a write reads the records from before it, with the edited ones in place of those that the edits name.
theorem sync_after_write {sourceDevice : UInt32} {manifestNonce : Bytes} {built : BuiltStorageWrite ρ}
    (hfresh : Fresh draws edits server manifest) (hnonce : manifestNonce.length = nonceLength)
    (hplain : ∀ edit ∈ edits, ∃ plaintext, c.marshalRecord edit.record = .ok plaintext ∧ plaintext ≠ [])
    (hbuilt : buildStorageWrite c storageKey manifest sourceDevice edits draws manifestNonce = .ok built)
    (hwrite : server.write built.op = some server') (hasked : ∀ keys, (answers.asked keys).Perm keys)
    (hanswers : ∀ n keys chunk, answers.fetchChunk n keys = .ok chunk → server'.Answers keys chunk)
    (hfetch : fetchStorage c storageKey answers (.ok (some server'.manifest)) [] = .ok (some update))
    (id : String) (record : ρ) : (∃ type, ⟨type, id, record⟩ ∈ update.newRecords) ↔
      (∃ a edit, edits[a]? = some edit ∧ id = encodeToString (draws a).id ∧ record = edit.record) ∨
        ∃ raw, id = encodeToString raw ∧ ¬Named edits raw ∧ server.Stores c storageKey manifest raw record := by
  obtain ⟨manifest', happlied⟩ := applied_of_write hfresh hnonce hbuilt hwrite
  rw [fetchStorage_reads happlied.readable hasked hanswers hfetch]
  constructor
  · rintro ⟨raw, rfl, hstores⟩
    rcases (happlied.stores hfresh hplain).mp hstores with ⟨a, edit, hedit, rfl, hrec⟩ | hkept
    · exact .inl ⟨a, edit, hedit, rfl, hrec⟩
    · exact .inr ⟨raw, rfl, hkept⟩
  · rintro (⟨a, edit, hedit, rfl, hrec⟩ | ⟨raw, rfl, hkept⟩)
    · exact ⟨_, rfl, (happlied.stores hfresh hplain).mpr (.inl ⟨a, edit, hedit, rfl, hrec⟩)⟩
    · exact ⟨raw, rfl, (happlied.stores hfresh hplain).mpr (.inr hkept)⟩

end Sync

def editedServer : Server := (sampleServer.write sampleWrite.op).getD sampleServer

def editedAnswers : Answers :=
  ⟨fun _ keys => .ok (keys.filterMap fun key => (editedServer.items key).map (⟨key, ·⟩)), id, id⟩

theorem sync_after_write_sample :
    ∃ update, fetchStorage sampleCrypto sampleKey editedAnswers (.ok (some editedServer.manifest)) [] =
      .ok (some update) ∧ ∃ type, ⟨type, encodeToString sampleDraw.id, true⟩ ∈ update.newRecords := by
  have hfetch : fetchStorage sampleCrypto sampleKey editedAnswers (.ok (some editedServer.manifest)) [] =
      .ok (some ⟨2, sampleWrite.newRecords, [], []⟩) := by decide +kernel
  have hfresh : Fresh (fun _ => sampleDraw) [⟨encodeToString sampleID, true⟩] sampleServer sampleManifest :=
    ⟨fun a ha b hb _ => by simp_all, fun _ _ => rfl, fun _ _ => by decide, fun _ _ => by decide⟩
  have hwrite : sampleServer.write sampleWrite.op = some editedServer := rfl
  have hplain : ∀ edit ∈ [StorageEdit.mk (encodeToString sampleID) true], ∃ plaintext,
      sampleCrypto.marshalRecord edit.record = .ok plaintext ∧ plaintext ≠ [] := by
    intro edit he
    rw [mem_singleton.mp he]
    exact ⟨[10, 2, 72, 1], rfl, by decide⟩
  refine ⟨_, hfetch, (sync_after_write hfresh rfl hplain sample_build hwrite (fun _ => .refl _) ?_
    hfetch _ _).mpr (.inl ⟨0, _, rfl, rfl, rfl⟩)⟩
  rintro n keys chunk ⟨⟩
  constructor
  · intro item hitem
    simp only [mem_filterMap, Option.map_eq_some_iff] at hitem
    obtain ⟨key, -, value, hval, rfl⟩ := hitem
    exact hval
  · simp +contextual

end MautrixSignal.Storage
