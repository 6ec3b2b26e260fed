import MautrixSignal.Storage.Devices

namespace MautrixSignal.Storage

open Lib.Base64 List

section Crypto

variable {ρ : Type} (c : Crypto ρ)

theorem decryptBytes_encryptStorageBlob {key nonce plaintext blob : Bytes}
    (h : encryptStorageBlob c key nonce plaintext = .ok blob) (hnonce : nonce.length = nonceLength)
    (hplain : plaintext ≠ []) : decryptBytes c key blob = .ok plaintext := by
  unfold encryptStorageBlob at h
  cases hct : c.aesgcmEncrypt key nonce plaintext with
  | error text =>
    rw [hct] at h
    cases h
  | ok ciphertext =>
    rw [hct] at h
    cases h
    have hlen := c.aesgcmEncrypt_length _ _ _ _ hct
    have hpos := length_pos_iff.mpr hplain
    have hlong : ¬(nonce ++ ciphertext).length < nonceLength + 16 + 1 := by
      rw [length_append]
      omega
    unfold decryptBytes
    rw [if_neg hlong, take_left' hnonce, drop_left' hnonce,
      c.aesgcmDecrypt_encrypt _ _ _ _ hct]
    rfl

theorem decryptStorageManifest_encrypt {storageKey nonce : Bytes} {manifest : ManifestRecord}
    {encrypted : StorageManifest} (h : encryptStorageManifest c storageKey nonce manifest = .ok encrypted)
    (hnonce : nonce.length = nonceLength) :
    encrypted.version = manifest.version ∧
      (manifest.version ≠ 0 → decryptStorageManifest c storageKey encrypted = .ok manifest) := by
  unfold encryptStorageManifest at h
  cases hm : c.marshalManifest manifest with
  | error text =>
    rw [hm] at h
    cases h
  | ok plaintext =>
    simp only [hm] at h
    cases hblob : encryptStorageBlob c (deriveStorageManifestKey c storageKey manifest.version) nonce
        plaintext with
    | error err =>
      rw [hblob] at h
      cases h
    | ok value =>
      rw [hblob] at h
      cases h
      refine ⟨rfl, fun hver => ?_⟩
      have hplain := c.marshalManifest_nonempty _ _ hm hver
      simp only [decryptStorageManifest, decryptBytes_encryptStorageBlob c hblob hnonce hplain]
      change (c.unmarshalManifest plaintext).mapError StorageError.crypto = _
      rw [c.unmarshalManifest_marshal _ _ hm]
      rfl

theorem decryptStorageItem_encrypt {storageKey recordIKM id nonce value plaintext : Bytes} {record : ρ}
    (h : encryptStorageRecord c storageKey recordIKM id nonce record = .ok value)
    (hnonce : nonce.length = nonceLength) (hmarshal : c.marshalRecord record = .ok plaintext)
    (hplain : plaintext ≠ []) : decryptStorageItem c storageKey recordIKM ⟨id, value⟩ = .ok record := by
  simp only [encryptStorageRecord, hmarshal] at h
  simp only [decryptStorageItem, decryptBytes_encryptStorageBlob c h hnonce hplain]
  change (c.unmarshalRecord plaintext).mapError StorageError.crypto = _
  rw [c.unmarshalRecord_marshal _ _ hmarshal]
  rfl

end Crypto

theorem swapIdentifier_spec {oldRaw newID : Bytes} {idents swapped : List Identifier} {type : ItemType}
    (h : swapIdentifier oldRaw newID idents = some (type, swapped)) :
    ⟨oldRaw, type⟩ ∈ idents ∧ ⟨newID, type⟩ ∈ swapped ∧
      (∀ ident ∈ swapped, ident ∈ idents ∨ ident = ⟨newID, type⟩) ∧
      ∀ ident ∈ idents, ident.raw ≠ oldRaw → ident ∈ swapped := by
  induction idents generalizing swapped with
  | nil => cases h
  | cons first rest ih =>
    unfold swapIdentifier at h
    by_cases hraw : first.raw = oldRaw
    · rw [if_pos hraw] at h
      cases h
      subst hraw
      refine ⟨mem_cons_self, mem_cons_self, ?_, ?_⟩
      · intro ident hm
        rcases mem_cons.mp hm with heq | hm
        · exact .inr heq
        · exact .inl (mem_cons_of_mem _ hm)
      · intro ident hm hne
        rcases mem_cons.mp hm with heq | hm
        · exact absurd (by rw [heq]) hne
        · exact mem_cons_of_mem _ hm
    · rw [if_neg hraw] at h
      obtain ⟨⟨type', swapped'⟩, hrest, heq⟩ := Option.map_eq_some_iff.mp h
      cases heq
      obtain ⟨hold, hnew, honly, hkept⟩ := ih hrest
      refine ⟨mem_cons_of_mem _ hold, mem_cons_of_mem _ hnew, ?_, ?_⟩
      · intro ident hm
        rcases mem_cons.mp hm with heq | hm
        · rw [heq]
          exact .inl mem_cons_self
        · exact (honly ident hm).imp (mem_cons_of_mem _) id
      · intro ident hm hne
        rcases mem_cons.mp hm with heq | hm
        · rw [heq]
          exact mem_cons_self
        · exact mem_cons_of_mem _ (hkept ident hm hne)

def Named {ρ : Type} (edits : List (StorageEdit ρ)) (raw : Bytes) : Prop :=
  ∃ edit ∈ edits, decodeString edit.oldID = some raw

theorem named_append {ρ : Type} {edits : List (StorageEdit ρ)} {edit : StorageEdit ρ} {raw : Bytes} :
    Named (edits ++ [edit]) raw ↔ Named edits raw ∨ decodeString edit.oldID = some raw := by
  simp [Named]

structure Built {ρ : Type} (c : Crypto ρ) (storageKey : Bytes) (manifest : ManifestRecord)
    (draws : Nat → Draw) (edits : List (StorageEdit ρ)) (st : BuildState ρ) : Prop where
  count : st.insertItem.length = edits.length
  deleted : ∀ raw, raw ∈ st.deleteKey ↔ Named edits raw
  inserted : ∀ a (edit : StorageEdit ρ), edits[a]? = some edit →
    ∃ value, st.insertItem[a]? = some ⟨(draws a).id, value⟩ ∧
      encryptStorageRecord c storageKey manifest.recordIkm (draws a).id (draws a).nonce edit.record =
        .ok value
  listed : ∀ ident ∈ st.identifiers, ident ∈ manifest.identifiers ∨
    ∃ a < edits.length, ident.raw = (draws a).id
  kept : ∀ ident ∈ manifest.identifiers, ¬Named edits ident.raw → ident ∈ st.identifiers
  swapped : ∀ a (edit : StorageEdit ρ), edits[a]? = some edit → ∃ raw type,
    decodeString edit.oldID = some raw ∧ ⟨raw, type⟩ ∈ manifest.identifiers ∧
      ⟨(draws a).id, type⟩ ∈ st.identifiers

section Build

variable {ρ : Type} {c : Crypto ρ} {storageKey : Bytes} {manifest : ManifestRecord}
  {draws : Nat → Draw}

theorem Built.nil : Built c storageKey manifest draws [] { identifiers := manifest.identifiers } := by
  constructor <;> simp [Named]

theorem buildEdit_eq_ok {recordIKM : Bytes} {edit : StorageEdit ρ} {st next : BuildState ρ}
    (h : buildEdit c storageKey recordIKM draws st edit = .ok next) :
    ∃ oldRaw type swapped value, decodeString edit.oldID = some oldRaw ∧
      swapIdentifier oldRaw (draws st.insertItem.length).id st.identifiers = some (type, swapped) ∧
      encryptStorageRecord c storageKey recordIKM (draws st.insertItem.length).id
        (draws st.insertItem.length).nonce edit.record = .ok value ∧
      next =
        { identifiers := swapped
          replaced := st.replaced ++ [edit.oldID]
          insertItem := st.insertItem ++ [⟨(draws st.insertItem.length).id, value⟩]
          deleteKey := st.deleteKey ++ [oldRaw]
          newRecords := st.newRecords ++
            [⟨type, encodeToString (draws st.insertItem.length).id, edit.record⟩] } := by
  unfold buildEdit at h
  split at h
  · cases h
  split at h
  · cases h
  next oldRaw hold =>
    dsimp only at h
    split at h
    · cases h
    next type swapped hswap =>
      split at h
      · cases h
      · next value hval =>
          cases h
          exact ⟨oldRaw, type, swapped, value, hold, hswap, hval, rfl⟩

theorem Built.edit {edits : List (StorageEdit ρ)} {edit : StorageEdit ρ} {st st' : BuildState ρ}
    (h : Built c storageKey manifest draws edits st)
    (hstep : buildEdit c storageKey manifest.recordIkm draws st edit = .ok st')
    (hunnamed : ∀ a < edits.length, decodeString edit.oldID ≠ some (draws a).id) :
    Built c storageKey manifest draws (edits ++ [edit]) st' := by
  obtain ⟨oldRaw, type, swapped, value, hold, hswap, henc, rfl⟩ := buildEdit_eq_ok hstep
  rw [hold] at hunnamed
  rw [h.count] at hswap henc
  obtain ⟨hfound, hnew, honly, hkept⟩ := swapIdentifier_spec hswap
  have hindex : ∀ a (e : StorageEdit ρ), (edits ++ [edit])[a]? = some e →
      edits[a]? = some e ∨ (a = edits.length ∧ e = edit) := by
    intro a e he
    rcases Nat.lt_trichotomy a edits.length with hlt | heq | hgt
    · left
      rwa [getElem?_append_left hlt] at he
    · right
      subst heq
      simp at he
      exact ⟨rfl, he.symm⟩
    · rw [getElem?_eq_none (by simp; omega)] at he
      cases he
  refine ⟨by simp [h.count], ?_, ?_, ?_, ?_, ?_⟩
  · intro raw
    rw [named_append, hold]
    simp [h.deleted, eq_comm]
  · intro a e he
    rcases hindex a e he with he | ⟨rfl, rfl⟩
    · obtain ⟨v, hv, hev⟩ := h.inserted a e he
      refine ⟨v, ?_, hev⟩
      have hlt := (List.getElem?_eq_some_iff.mp hv).1
      simpa [getElem?_append_left hlt] using hv
    · refine ⟨value, ?_, henc⟩
      simp [← h.count]
  · intro ident hm
    rcases honly ident hm with hm | heq
    · rcases h.listed ident hm with hm | ⟨a, ha, hraw⟩
      · exact .inl hm
      · exact .inr ⟨a, by simp; omega, hraw⟩
    · exact .inr ⟨edits.length, by simp, by rw [heq]⟩
  · intro ident hm hnamed
    rw [named_append, hold] at hnamed
    have hraw : ident.raw ≠ oldRaw := fun heq => hnamed (.inr (by rw [heq]))
    exact hkept ident (h.kept ident hm fun hn => hnamed (.inl hn)) hraw
  · intro a e he
    rcases hindex a e he with he | ⟨rfl, rfl⟩
    · obtain ⟨raw, type', hraw, hm, hid⟩ := h.swapped a e he
      have hlt := (List.getElem?_eq_some_iff.mp he).1
      refine ⟨raw, type', hraw, hm, hkept _ hid ?_⟩
      intro heq
      exact hunnamed a hlt (by rw [← heq])
    · refine ⟨oldRaw, type, hold, ?_, hnew⟩
      -- The ID found is one of the manifest, not one drawn for an earlier edit.
      rcases h.listed _ hfound with hm | ⟨a, ha, hraw⟩
      · exact hm
      · exact absurd (congrArg some hraw) (hunnamed a ha)

theorem Built.edits {done edits : List (StorageEdit ρ)} {st st' : BuildState ρ}
    (h : Built c storageKey manifest draws done st)
    (hfold : edits.foldlM (buildEdit c storageKey manifest.recordIkm draws) st = .ok st')
    (hunnamed : ∀ edit ∈ edits, ∀ a < (done ++ edits).length, decodeString edit.oldID ≠ some (draws a).id) :
    Built c storageKey manifest draws (done ++ edits) st' := by
  induction edits generalizing done st with
  | nil =>
    cases hfold
    simpa using h
  | cons edit rest ih =>
    rw [foldlM_cons] at hfold
    cases hstep : buildEdit c storageKey manifest.recordIkm draws st edit with
    | error err =>
      rw [hstep] at hfold
      cases hfold
    | ok next =>
      rw [hstep] at hfold
      have hnext : Built c storageKey manifest draws (done ++ [edit]) next := by
        refine h.edit hstep ?_
        intro a ha
        exact hunnamed edit mem_cons_self a (by simp; omega)
      have hrest := ih hnext hfold (by
        intro e he a ha
        exact hunnamed e (mem_cons_of_mem _ he) a (by simpa using ha))
      simpa using hrest

theorem buildStorageWrite_spec {sourceDevice : UInt32} {edits : List (StorageEdit ρ)}
    {manifestNonce : Bytes} {built : BuiltStorageWrite ρ}
    (h : buildStorageWrite c storageKey manifest sourceDevice edits draws manifestNonce = .ok built) :
    ∃ st, edits.foldlM (buildEdit c storageKey manifest.recordIkm draws)
        { identifiers := manifest.identifiers } = .ok st ∧
      built.op.insertItem = st.insertItem ∧ built.op.deleteKey = st.deleteKey ∧
      encryptStorageManifest c storageKey manifestNonce { manifest with
        version := manifest.version + 1
        sourceDevice := sourceDevice
        identifiers := st.identifiers } = .ok built.op.manifest := by
  unfold buildStorageWrite at h
  split at h
  · cases h
  cases hfold : edits.foldlM (buildEdit c storageKey manifest.recordIkm draws)
      { identifiers := manifest.identifiers } with
  | error err =>
    rw [hfold] at h
    cases h
  | ok st =>
    simp only [hfold] at h
    split at h
    · cases h
    · next encrypted henc =>
        cases h
        exact ⟨st, rfl, rfl, rfl, henc⟩

end Build

section Records

variable {ρ : Type} (c : Crypto ρ) (storageKey recordIKM : Bytes)

-- Items with one key are the same item, as all of them are stored ones.
def Consistent (items : List StorageItem) : Prop :=
  ∀ a ∈ items, ∀ b ∈ items, a.key = b.key → a = b

theorem mem_decryptStorageItems {ids : IDMap} {items : List StorageItem} (hsame : Consistent items)
    (r : DecryptedStorageRecord ρ) :
    r ∈ decryptStorageItems c storageKey recordIKM ids items ↔
      ∃ item ∈ items, r.storageID = encodeToString item.key ∧
        ids (encodeToString item.key) = some r.itemType ∧
        decryptStorageItem c storageKey recordIKM item = .ok r.storageRecord := by
  induction items generalizing ids with
  | nil => simp [decryptStorageItems]
  | cons item rest ih =>
    have hrest : Consistent rest := fun a ha b hb =>
      hsame a (mem_cons_of_mem _ ha) b (mem_cons_of_mem _ hb)
    unfold decryptStorageItems
    split
    · next type record htype hdec =>
        rw [mem_cons, ih hrest]
        constructor
        · rintro (rfl | ⟨other, hm, hid, hty, hd⟩)
          · exact ⟨item, mem_cons_self, rfl, htype, hdec⟩
          · unfold IDMap.erase at hty
            split at hty
            · cases hty
            · exact ⟨other, mem_cons_of_mem _ hm, hid, hty, hd⟩
        · rintro ⟨other, hm, hid, hty, hd⟩
          by_cases hkey : encodeToString other.key = encodeToString item.key
          · have heq := hsame other hm item mem_cons_self (encodeToString_injective hkey)
            cases r
            simp_all
          · right
            rcases mem_cons.mp hm with heq | hm
            · exact absurd (by rw [heq]) hkey
            · exact ⟨other, hm, hid, by simpa [IDMap.erase, hkey] using hty, hd⟩
    · next hskip =>
        rw [ih hrest]
        constructor
        · rintro ⟨other, hm, h⟩
          exact ⟨other, mem_cons_of_mem _ hm, h⟩
        · rintro ⟨other, hm, hid, hty, hd⟩
          rcases mem_cons.mp hm with heq | hm
          · subst heq
            exact absurd hd (hskip _ _ hty)
          · exact ⟨other, hm, hid, hty, hd⟩

theorem decryptStorageItems_nodup (ids : IDMap) (items : List StorageItem) :
    ((decryptStorageItems c storageKey recordIKM ids items).map
      DecryptedStorageRecord.storageID).Nodup := by
  -- An ID leaves the map with its first record, so no later record can have it.
  have hids : ∀ (items : List StorageItem) (ids : IDMap) (r : DecryptedStorageRecord ρ),
      r ∈ decryptStorageItems c storageKey recordIKM ids items → (ids r.storageID).isSome := by
    intro items
    induction items with
    | nil => intro ids r hr; cases hr
    | cons item rest ih =>
      intro ids r hr
      unfold decryptStorageItems at hr
      split at hr
      · next type record htype _ =>
          rcases mem_cons.mp hr with rfl | hr
          · simp [htype]
          · have h := ih _ r hr
            unfold IDMap.erase at h
            split at h
            · cases h
            · exact h
      · exact ih ids r hr
  induction items generalizing ids with
  | nil => exact nodup_nil
  | cons item rest ih =>
    unfold decryptStorageItems
    split
    · rw [map_cons, nodup_cons]
      refine ⟨?_, ih _⟩
      intro hm
      obtain ⟨r, hr, hid⟩ := mem_map.mp hm
      have h := hids rest _ r hr
      simp [IDMap.erase, hid] at h
    · exact ih ids

end Records

end MautrixSignal.Storage
