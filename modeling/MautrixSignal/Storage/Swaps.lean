import MautrixSignal.Storage.Theorems

namespace MautrixSignal.Storage

open Lib.Base64 List

-- The inner loop of buildStorageWrite on the memory, where the identifiers of a manifest are pointers: it assigns to
-- the first one with the old ID.
def swapCell (oldRaw newID : Bytes) (memory : List Identifier) : List Nat → List Identifier
  | [] => memory
  | p :: rest =>
    match memory[p]? with
    | none => memory
    | some ident =>
      if ident.raw = oldRaw then memory.set p { ident with raw := newID }
      else swapCell oldRaw newID memory rest

section Memory

variable {ρ : Type} (c : Crypto ρ) (storageKey recordIKM : Bytes) (draws : Nat → Draw)

def assignEdits (clone : List Nat) :
    BuildState ρ → List Identifier → List (StorageEdit ρ) → List Identifier
  | _, memory, [] => memory
  | st, memory, edit :: rest =>
    match buildEdit c storageKey recordIKM draws st edit, decodeString edit.oldID with
    | .ok next, some oldRaw =>
      assignEdits clone next (swapCell oldRaw (draws st.insertItem.length).id memory clone) rest
    | _, _ => memory

def memoryAfter (manifest : ManifestRecord) (edits : List (StorageEdit ρ)) (memory : List Identifier) :
    List Identifier :=
  assignEdits c storageKey manifest.recordIkm draws
    (List.range' memory.length manifest.identifiers.length) { identifiers := manifest.identifiers }
    (memory ++ manifest.identifiers) edits

theorem swapCell_clone {oldRaw newID : Bytes} {copies swapped : List Identifier} {type : ItemType}
    (memory : List Identifier) (h : swapIdentifier oldRaw newID copies = some (type, swapped)) :
    swapCell oldRaw newID (memory ++ copies) (List.range' memory.length copies.length) = memory ++ swapped ∧
      swapped.length = copies.length := by
  induction copies generalizing memory swapped with
  | nil => cases h
  | cons first rest ih =>
    have hat : (memory ++ first :: rest)[memory.length]? = some first := by simp
    rw [length_cons, List.range'_succ, swapCell, hat]
    unfold swapIdentifier at h
    dsimp only
    split_ifs at h ⊢
    · cases h
      simp
    · obtain ⟨⟨type', swapped'⟩, hrest, heq⟩ := Option.map_eq_some_iff.mp h
      cases heq
      obtain ⟨hmemory, hlen⟩ := ih (memory ++ [first]) hrest
      simp only [length_append, append_assoc] at hmemory
      exact ⟨hmemory, by rw [length_cons, hlen]⟩

theorem assignEdits_clone (memory : List Identifier) (st : BuildState ρ) (edits : List (StorageEdit ρ)) :
    ∃ copies, assignEdits c storageKey recordIKM draws (List.range' memory.length st.identifiers.length) st
      (memory ++ st.identifiers) edits = memory ++ copies := by
  induction edits generalizing st with
  | nil => exact ⟨st.identifiers, rfl⟩
  | cons edit rest ih =>
    unfold assignEdits
    cases hedit : buildEdit c storageKey recordIKM draws st edit with
    | error err => exact ⟨st.identifiers, rfl⟩
    | ok next =>
      obtain ⟨oldRaw, type, swapped, value, hold, hswap, -, hnext⟩ := buildEdit_eq_ok hedit
      have hswapped : next.identifiers = swapped := by rw [hnext]
      obtain ⟨hmemory, hlen⟩ := swapCell_clone memory hswap
      rw [hold]
      dsimp only
      rw [hmemory, ← hlen, ← hswapped]
      exact ih next

end Memory

def editedIDs {ρ : Type} (edits : List (StorageEdit ρ)) : List Bytes :=
  edits.filterMap fun edit => decodeString edit.oldID

-- An identifier of the old manifest in the new one: the one that edit a names has the ID drawn for edit a.
def swapped (draws : Nat → Draw) (raws : List Bytes) (ident : Identifier) : Identifier :=
  if ident.raw ∈ raws then { ident with raw := (draws (raws.idxOf ident.raw)).id } else ident

def swappedManifest (manifest : ManifestRecord) (sourceDevice : UInt32) (draws : Nat → Draw)
    (raws : List Bytes) : ManifestRecord :=
  { manifest with
    version := manifest.version + 1
    sourceDevice := sourceDevice
    identifiers := manifest.identifiers.map (swapped draws raws) }

-- Each edit names another record of the manifest.
structure Writable {ρ : Type} (manifest : ManifestRecord) (edits : List (StorageEdit ρ)) : Prop where
  decodes : ∀ edit ∈ edits, (decodeString edit.oldID).isSome
  distinct : (editedIDs edits).Nodup
  listed : ∀ raw ∈ editedIDs edits, raw ∈ manifest.identifiers.map Identifier.raw

section Swaps

variable {ρ : Type} {c : Crypto ρ} {storageKey : Bytes} {manifest : ManifestRecord} {draws : Nat → Draw}
  {raws : List Bytes} {oldRaw : Bytes} {done edits : List (StorageEdit ρ)} {edit : StorageEdit ρ}
  {st : BuildState ρ}

theorem swapped_append_of_ne {ident : Identifier} (h : ident.raw ≠ oldRaw) :
    swapped draws (raws ++ [oldRaw]) ident = swapped draws raws ident := by
  unfold swapped
  simp only [mem_append, mem_singleton, h, or_false]
  split_ifs with hmem
  · rw [idxOf_append_of_mem hmem]
  · rfl

theorem swapped_append_self {ident : Identifier} (h : ident.raw ∉ raws) :
    swapped draws (raws ++ [ident.raw]) ident = { ident with raw := (draws raws.length).id } := by
  unfold swapped
  rw [if_pos (mem_append_right _ (mem_singleton_self _)), idxOf_append_of_notMem h]
  simp

theorem swapIdentifier_swapped {idents : List Identifier} (hdistinct : (idents.map Identifier.raw).Nodup)
    (hfresh : ∀ a < raws.length, (draws a).id ≠ oldRaw) :
    swapIdentifier oldRaw (draws raws.length).id (idents.map (swapped draws raws)) =
      if oldRaw ∈ raws then none
      else (idents.find? fun ident => ident.raw = oldRaw).map fun ident =>
        (ident.type, idents.map (swapped draws (raws ++ [oldRaw]))) := by
  induction idents with
  | nil => simp [swapIdentifier]
  | cons first rest ih =>
    obtain ⟨hfirst, hrest⟩ := nodup_cons.mp hdistinct
    have hraw : (swapped draws raws first).raw = oldRaw ↔ first.raw = oldRaw ∧ oldRaw ∉ raws := by
      unfold swapped
      split_ifs with hmem
      · have hne := hfresh _ (idxOf_lt_length_of_mem hmem)
        simp only [hne, false_iff, not_and, not_not]
        rintro rfl
        exact hmem
      · constructor
        · rintro rfl
          exact ⟨rfl, hmem⟩
        · exact And.left
    rw [map_cons, swapIdentifier]
    by_cases hfound : first.raw = oldRaw ∧ oldRaw ∉ raws
    · obtain ⟨rfl, hmem⟩ := hfound
      have htail : rest.map (swapped draws (raws ++ [first.raw])) = rest.map (swapped draws raws) := by
        refine map_congr_left fun ident hident => swapped_append_of_ne fun heq => ?_
        exact hfirst (heq ▸ mem_map_of_mem hident)
      have hkept : swapped draws raws first = first := if_neg hmem
      rw [if_pos (hraw.mpr ⟨rfl, hmem⟩), if_neg hmem, find?_cons_of_pos (by simp), Option.map_some,
        map_cons, swapped_append_self hmem, htail, hkept]
    · rw [if_neg (fun h => hfound (hraw.mp h)), ih hrest]
      by_cases hmem : oldRaw ∈ raws
      · rw [if_pos hmem, if_pos hmem]
        rfl
      · have hne : first.raw ≠ oldRaw := fun heq => hfound ⟨heq, hmem⟩
        rw [if_neg hmem, if_neg hmem, find?_cons_of_neg (by simpa using hne), Option.map_map,
          map_cons, swapped_append_of_ne hne]
        rfl

theorem editedIDs_append (done edits : List (StorageEdit ρ)) :
    editedIDs (done ++ edits) = editedIDs done ++ editedIDs edits :=
  filterMap_append

theorem Writable.left (h : Writable manifest (done ++ edits)) : Writable manifest done := by
  obtain ⟨hdecodes, hdistinct, hlisted⟩ := h
  rw [editedIDs_append] at hdistinct hlisted
  exact ⟨fun edit hm => hdecodes edit (mem_append_left _ hm), (nodup_append.mp hdistinct).1,
    fun raw hm => hlisted raw (mem_append_left _ hm)⟩

theorem writable_append_singleton (h : Writable manifest done) (hold : decodeString edit.oldID = some oldRaw) :
    Writable manifest (done ++ [edit]) ↔
      oldRaw ∉ editedIDs done ∧ oldRaw ∈ manifest.identifiers.map Identifier.raw := by
  have hone : editedIDs [edit] = [oldRaw] := by simp [editedIDs, hold]
  constructor
  · rintro ⟨-, hdistinct, hlisted⟩
    rw [editedIDs_append, hone] at hdistinct hlisted
    refine ⟨fun hm => ?_, hlisted oldRaw (by simp)⟩
    exact (nodup_append.mp hdistinct).2.2 _ hm _ (mem_singleton_self _) rfl
  · rintro ⟨hnew, hlisted⟩
    refine ⟨?_, ?_, ?_⟩
    · intro e he
      rcases mem_append.mp he with he | he
      · exact h.decodes e he
      · rw [mem_singleton.mp he, hold]
        rfl
    · rw [editedIDs_append, hone]
      exact nodup_append.mpr ⟨h.distinct, by simp, fun a ha b hb heq =>
        hnew (mem_singleton.mp hb ▸ heq ▸ ha)⟩
    · intro raw hraw
      rw [editedIDs_append, hone] at hraw
      rcases mem_append.mp hraw with hraw | hraw
      · exact h.listed raw hraw
      · rwa [mem_singleton.mp hraw]

theorem length_editedIDs (h : ∀ edit ∈ edits, (decodeString edit.oldID).isSome) :
    (editedIDs edits).length = edits.length := by
  unfold editedIDs
  rw [filterMap_length_eq_length]
  exact h

structure Swapping (manifest : ManifestRecord) (draws : Nat → Draw) (done : List (StorageEdit ρ))
    (st : BuildState ρ) : Prop where
  writable : Writable manifest done
  replaced : st.replaced = done.map StorageEdit.oldID
  count : st.insertItem.length = done.length
  deleteKey : st.deleteKey = editedIDs done
  identifiers : st.identifiers = manifest.identifiers.map (swapped draws (editedIDs done))

theorem Swapping.nil : Swapping manifest draws ([] : List (StorageEdit ρ)) { identifiers := manifest.identifiers } := by
  refine ⟨⟨nofun, nodup_nil, nofun⟩, rfl, rfl, rfl, ?_⟩
  have hsame : swapped draws [] = id := by
    funext ident
    exact if_neg not_mem_nil
  rw [show editedIDs ([] : List (StorageEdit ρ)) = [] from rfl, hsame, map_id]

section

variable (h : Swapping manifest draws done st) (hdistinct : (manifest.identifiers.map Identifier.raw).Nodup)

include h hdistinct

theorem Swapping.step (hfresh : ∀ a < done.length, decodeString edit.oldID ≠ some (draws a).id)
    (hseal : ∃ value, encryptStorageRecord c storageKey manifest.recordIkm (draws done.length).id
      (draws done.length).nonce edit.record = .ok value) :
    (∃ next, buildEdit c storageKey manifest.recordIkm draws st edit = .ok next ∧
        Swapping manifest draws (done ++ [edit]) next) ∨
      (∃ err, buildEdit c storageKey manifest.recordIkm draws st edit = .error err) ∧
        ¬Writable manifest (done ++ [edit]) := by
  unfold buildEdit
  cases hold : decodeString edit.oldID with
  | none =>
    right
    refine ⟨?_, fun hw => ?_⟩
    · split_ifs <;> exact ⟨_, rfl⟩
    · have hsome := hw.decodes edit (by simp)
      rw [hold] at hsome
      cases hsome
  | some oldRaw =>
    rw [writable_append_singleton h.writable hold]
    by_cases htwice : edit.oldID ∈ st.replaced
    · right
      rw [if_pos htwice]
      refine ⟨⟨_, rfl⟩, fun hw => hw.1 ?_⟩
      rw [h.replaced] at htwice
      obtain ⟨e, he, hid⟩ := mem_map.mp htwice
      exact mem_filterMap.mpr ⟨e, he, by rw [hid, hold]⟩
    · rw [hold] at hfresh
      have hlen := length_editedIDs h.writable.decodes
      have hunnamed : ∀ a < (editedIDs done).length, (draws a).id ≠ oldRaw := fun a ha heq =>
        hfresh a (hlen ▸ ha) (by rw [heq])
      rw [if_neg htwice]
      dsimp only
      rw [h.count, ← hlen, h.identifiers, swapIdentifier_swapped hdistinct hunnamed]
      by_cases hgone : oldRaw ∈ editedIDs done
      · right
        rw [if_pos hgone]
        exact ⟨⟨_, rfl⟩, fun hw => hw.1 hgone⟩
      · rw [if_neg hgone]
        cases hfind : manifest.identifiers.find? fun ident => ident.raw = oldRaw with
        | none =>
          right
          refine ⟨⟨_, rfl⟩, fun hw => ?_⟩
          obtain ⟨ident, hm, hraw⟩ := mem_map.mp hw.2
          exact find?_eq_none.mp hfind ident hm (by simpa using hraw)
        | some ident =>
          left
          obtain ⟨value, hval⟩ := hseal
          have hraw : ident.raw = oldRaw := by simpa using find?_some hfind
          have hlisted := hraw ▸ mem_map_of_mem (f := Identifier.raw) (mem_of_find?_eq_some hfind)
          rw [hlen, Option.map_some]
          rw [hval]
          have hids : editedIDs (done ++ [edit]) = editedIDs done ++ [oldRaw] := by
            simp [editedIDs, hold]
          refine ⟨_, rfl, (writable_append_singleton h.writable hold).mpr ⟨hgone, hlisted⟩, ?_, ?_, ?_, ?_⟩
          · simp [h.replaced]
          · simp [h.count]
          · simp [h.deleteKey, hids]
          · rw [hids]

theorem Swapping.run
    (hfresh : ∀ edit ∈ edits, ∀ a < (done ++ edits).length, decodeString edit.oldID ≠ some (draws a).id)
    (hseal : ∀ a edit, edits[a]? = some edit →
    ∃ value, encryptStorageRecord c storageKey manifest.recordIkm
      (draws (done.length + a)).id (draws (done.length + a)).nonce edit.record = .ok value) :
    (∃ next, edits.foldlM (buildEdit c storageKey manifest.recordIkm draws) st = .ok next ∧
        Swapping manifest draws (done ++ edits) next) ∨
      (∃ err, edits.foldlM (buildEdit c storageKey manifest.recordIkm draws) st = .error err) ∧
        ¬Writable manifest (done ++ edits) := by
  induction edits generalizing done st with
  | nil =>
    left
    exact ⟨st, rfl, by rwa [append_nil]⟩
  | cons edit rest ih =>
    have hassoc : done ++ edit :: rest = done ++ [edit] ++ rest := by simp
    rw [foldlM_cons, hassoc]
    rcases h.step hdistinct (fun a ha => hfresh edit mem_cons_self a (by simp; omega))
      (hseal 0 edit rfl) with ⟨next, hstep, hnext⟩ | ⟨⟨err, hstep⟩, hnot⟩
    · rw [hstep]
      refine ih hnext ?_ ?_
      · rw [← hassoc]
        exact fun e he => hfresh e (mem_cons_of_mem _ he)
      · intro a e he
        have hlen : (done ++ [edit]).length + a = done.length + (a + 1) := by
          simp only [length_append, length_singleton]
          omega
        rw [hlen]
        exact hseal (a + 1) e he
    · right
      rw [hstep]
      exact ⟨⟨err, rfl⟩, fun hw => hnot hw.left⟩

end

end Swaps

section Write

variable {ρ : Type} (c : Crypto ρ) (storageKey : Bytes) (manifest : ManifestRecord) (sourceDevice : UInt32)
  (edits : List (StorageEdit ρ)) (draws : Nat → Draw) (manifestNonce : Bytes)

-- What the code outside of the repository and the random IDs are taken to do in one call: the records and the new
-- manifest can be sealed, and no drawn ID is one that an edit names.
structure Sealed : Prop where
  nonce : manifestNonce.length = nonceLength
  fresh : ∀ edit ∈ edits, ∀ a < edits.length, decodeString edit.oldID ≠ some (draws a).id
  records : ∀ a (edit : StorageEdit ρ), edits[a]? = some edit →
    ∃ value, encryptStorageRecord c storageKey manifest.recordIkm
    (draws a).id (draws a).nonce edit.record = .ok value
  newManifest : ∃ value, encryptStorageManifest c storageKey manifestNonce
    (swappedManifest manifest sourceDevice draws (editedIDs edits)) = .ok value

structure SwapsEdits (op : WriteOperation) : Prop where
  newManifest : encryptStorageManifest c storageKey manifestNonce
    (swappedManifest manifest sourceDevice draws (editedIDs edits)) = .ok op.manifest
  version : op.manifest.version = manifest.version + 1
  readable : manifest.version + 1 ≠ 0 → decryptStorageManifest c storageKey op.manifest =
    .ok (swappedManifest manifest sourceDevice draws (editedIDs edits))
  deleted : op.deleteKey = editedIDs edits
  count : op.insertItem.length = edits.length
  inserted : ∀ (a : Nat) (edit : StorageEdit ρ), edits[a]? = some edit →
    ∃ value, op.insertItem[a]? = some ⟨(draws a).id, value⟩ ∧ (c.marshalRecord edit.record ≠ .ok [] →
      decryptStorageItem c storageKey manifest.recordIkm ⟨(draws a).id, value⟩ = .ok edit.record)

end Write

-- Each edited identifier is swapped for a fresh one in its place.
theorem buildStorageWrite_swaps {ρ : Type} (c : Crypto ρ) (storageKey : Bytes) (manifest : ManifestRecord)
    (sourceDevice : UInt32) (edits : List (StorageEdit ρ)) (draws : Nat → Draw) (manifestNonce : Bytes)
    (hdistinct : (manifest.identifiers.map Identifier.raw).Nodup)
    (hsealed : Sealed c storageKey manifest sourceDevice edits draws manifestNonce) :
    ((∃ built, buildStorageWrite c storageKey manifest sourceDevice edits draws manifestNonce = .ok built) ↔
      edits ≠ [] ∧ Writable manifest edits) ∧
    (∀ built, buildStorageWrite c storageKey manifest sourceDevice edits draws manifestNonce = .ok built →
      SwapsEdits c storageKey manifest sourceDevice edits draws manifestNonce built.op) ∧
    ∀ memory, memory <+: memoryAfter c storageKey draws manifest edits memory := by
  have hrun := Swapping.nil.run hdistinct (by simpa using hsealed.fresh) (by simpa using hsealed.records)
  refine ⟨?_, ?_, fun memory => ?_⟩
  · unfold buildStorageWrite
    by_cases hemp : edits = []
    · simp [hemp]
    rw [if_neg (by simpa using hemp)]
    rcases hrun with ⟨st, hfold, hst⟩ | ⟨⟨err, hfold⟩, hnot⟩
    · obtain ⟨value, hval⟩ := hsealed.newManifest
      have hnew : { manifest with
          version := manifest.version + 1
          sourceDevice := sourceDevice
          identifiers := st.identifiers } = swappedManifest manifest sourceDevice draws (editedIDs edits) := by
        rw [hst.identifiers]
        rfl
      rw [hfold]
      dsimp only
      rw [hnew, hval]
      exact ⟨fun _ => ⟨hemp, hst.writable⟩, fun _ => ⟨_, rfl⟩⟩
    · rw [hfold]
      exact ⟨fun ⟨_, h⟩ => (nomatch h), fun h => absurd h.2 hnot⟩
  · intro built hbuilt
    obtain ⟨st, hfold, hins, hdelete, hman⟩ := buildStorageWrite_spec hbuilt
    have hst : Swapping manifest draws edits st := by
      rcases hrun with ⟨st', hfold', hst'⟩ | ⟨⟨err, hfold'⟩, _⟩
      · cases hfold.symm.trans hfold'
        exact hst'
      · cases hfold.symm.trans hfold'
    have hitems : Built c storageKey manifest draws edits st :=
      Built.nil.edits hfold (by simpa using hsealed.fresh)
    have henc : encryptStorageManifest c storageKey manifestNonce
        (swappedManifest manifest sourceDevice draws (editedIDs edits)) = .ok built.op.manifest := by
      rw [← hman, hst.identifiers]
      rfl
    obtain ⟨hver, hread⟩ := decryptStorageManifest_encrypt c henc hsealed.nonce
    refine ⟨henc, hver, hread, hdelete.trans hst.deleteKey, ?_, ?_⟩
    · rw [hins, hitems.count]
    · intro a edit hedit
      obtain ⟨value, hat, hval⟩ := hitems.inserted a edit hedit
      refine ⟨value, hins ▸ hat, fun hfull => ?_⟩
      cases hmarshal : c.marshalRecord edit.record with
      | error text =>
        simp only [encryptStorageRecord, hmarshal] at hval
        cases hval
      | ok plaintext =>
        refine decryptStorageItem_encrypt c hval (draws a).nonce_length hmarshal fun hnil => ?_
        exact hfull (by rw [hmarshal, hnil])
  · obtain ⟨copies, hcopies⟩ := assignEdits_clone c storageKey manifest.recordIkm draws memory
      { identifiers := manifest.identifiers } edits
    exact ⟨copies, hcopies.symm⟩

theorem sample_swaps : SwapsEdits sampleCrypto sampleKey sampleManifest 2 [⟨encodeToString sampleID, true⟩]
    (fun _ => sampleDraw) (List.replicate 12 4) sampleWrite.op := by
  have hsealed : Sealed sampleCrypto sampleKey sampleManifest 2 [⟨encodeToString sampleID, true⟩]
      (fun _ => sampleDraw) (List.replicate 12 4) := by
    refine ⟨rfl, ?_, ?_, ⟨sampleWrite.op.manifest, by decide +kernel⟩⟩
    · intro edit hedit a _
      rw [mem_singleton.mp hedit]
      decide +kernel
    · intro a edit hedit
      have hmem := mem_of_getElem? hedit
      rw [mem_singleton.mp hmem]
      exact ⟨sampleDraw.nonce ++ blockedItem, by decide +kernel⟩
  exact (buildStorageWrite_swaps sampleCrypto sampleKey sampleManifest 2 [⟨encodeToString sampleID, true⟩]
    (fun _ => sampleDraw) (List.replicate 12 4) (by decide) hsealed).2.1 sampleWrite sample_build

-- The write is built, and the reader refuses the item in it.
theorem bare_record_not_readable :
    ∃ built, buildStorageWrite bareCrypto sampleKey sampleManifest 2 [⟨encodeToString sampleID, none⟩]
        (fun _ => sampleDraw) (List.replicate 12 4) = .ok built ∧
      built.op.insertItem = [⟨sampleDraw.id, sampleDraw.nonce ++ bareTag⟩] ∧
      decryptStorageItem bareCrypto sampleKey sampleManifest.recordIkm ⟨sampleDraw.id, sampleDraw.nonce ++ bareTag⟩ =
        .error (.crypto "invalid encryptedBytes length") :=
  ⟨bareWrite, bare_build, rfl, bare_unreadable⟩

end MautrixSignal.Storage
