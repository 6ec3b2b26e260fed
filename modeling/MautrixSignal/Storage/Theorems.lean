import MautrixSignal.Lib.Run
import MautrixSignal.Lib.Versioned
import MautrixSignal.Storage.Build

namespace MautrixSignal.Storage

open Lib Lib.Base64 List World

section Spec

variable {ρ : Type} (c : Crypto ρ) (storageKey : Bytes)

structure SnapshotOf (wanted : List ItemType) (server : Server) (manifest : ManifestRecord)
    (records : List (DecryptedStorageRecord ρ)) : Prop where
  nodup : (records.map DecryptedStorageRecord.storageID).Nodup
  mem : ∀ r, r ∈ records ↔ ∃ raw value, r.storageID = encodeToString raw ∧
    wantedIDs manifest wanted (encodeToString raw) = some r.itemType ∧
    server.items raw = some value ∧
    decryptStorageItem c storageKey manifest.recordIkm ⟨raw, value⟩ = .ok r.storageRecord

-- The server after the edits: the named records are gone, each is replaced by the edited
-- one under its new ID, and nothing else is different.
structure Applied (server server' : Server) (manifest manifest' : ManifestRecord)
    (edits : List (StorageEdit ρ)) (draws : Nat → Draw) : Prop where
  version : server'.version = server.version + 1
  readable : decryptStorageManifest c storageKey server'.manifest = .ok manifest'
  recordIkm : manifest'.recordIkm = manifest.recordIkm
  kept : ∀ raw, ¬Named edits raw → (∀ a < edits.length, raw ≠ (draws a).id) →
    server'.items raw = server.items raw
  removed : ∀ raw, Named edits raw → server'.items raw = none
  keptIdentifiers : ∀ ident ∈ manifest.identifiers, ¬Named edits ident.raw →
    ident ∈ manifest'.identifiers
  onlyIdentifiers : ∀ ident ∈ manifest'.identifiers, ident ∈ manifest.identifiers ∨
    ∃ a < edits.length, ident.raw = (draws a).id
  replaced : ∀ (a : ℕ) (edit : StorageEdit ρ), edits[a]? = some edit → ∃ raw type value,
    decodeString edit.oldID = some raw ∧ ⟨raw, type⟩ ∈ manifest.identifiers ∧
      ⟨(draws a).id, type⟩ ∈ manifest'.identifiers ∧ server'.items (draws a).id = some value ∧
      ∀ plaintext, c.marshalRecord edit.record = .ok plaintext → plaintext ≠ [] →
        decryptStorageItem c storageKey manifest'.recordIkm ⟨(draws a).id, value⟩ = .ok edit.record

end Spec

section Write

variable {ρ : Type} {c : Crypto ρ} {storageKey : Bytes} {server server' : Server}

theorem write_spec {op : WriteOperation} (h : server.write op = some server') :
    op.manifest.version.toNat = server.version + 1 ∧ server'.manifest = op.manifest ∧
      ∀ key, server'.items key =
        match lookupItem op.insertItem key with
        | some value => some value
        | none => if key ∈ op.deleteKey then none else server.items key := by
  unfold Server.write at h
  split at h
  · next hv =>
      cases h
      exact ⟨hv, rfl, fun _ => rfl⟩
  · cases h

theorem write_version {op : WriteOperation} (h : server.write op = some server') :
    server'.version = server.version + 1 := by
  obtain ⟨hv, hm, _⟩ := write_spec h
  rw [Server.version, hm, hv]

theorem lookupItem_eq_none {items : List StorageItem} {key : Bytes}
    (h : ∀ item ∈ items, item.key ≠ key) : lookupItem items key = none := by
  rw [lookupItem, Option.map_eq_none_iff, find?_eq_none]
  intro item hm
  simpa using h item hm

theorem lookupItem_eq_some {items : List StorageItem} {a : ℕ} {item : StorageItem}
    (h : items[a]? = some item) (hdist : ∀ (b : ℕ) other, items[b]? = some other →
      other.key = item.key → other = item) : lookupItem items item.key = some item.value := by
  cases hfind : items.find? fun other => other.key = item.key with
  | none =>
    have hm := find?_eq_none.mp hfind item (mem_of_getElem? h)
    simp at hm
  | some other =>
    have hkey : other.key = item.key := by simpa using find?_some hfind
    obtain ⟨b, hb⟩ := mem_iff_getElem?.mp (mem_of_find?_eq_some hfind)
    rw [lookupItem, hfind, hdist b other hb hkey]
    rfl

theorem Built.mem_insertItem {manifest : ManifestRecord} {draws : Nat → Draw}
    {edits : List (StorageEdit ρ)} {st : BuildState ρ}
    (h : Built c storageKey manifest draws edits st) {b : ℕ} {item : StorageItem}
    (hb : st.insertItem[b]? = some item) : b < edits.length ∧ item.key = (draws b).id := by
  have hlt : b < edits.length := by
    rw [← h.count]
    exact (List.getElem?_eq_some_iff.mp hb).1
  obtain ⟨value, hv, _⟩ := h.inserted b edits[b] (getElem?_eq_getElem hlt)
  rw [hb] at hv
  cases hv
  exact ⟨hlt, rfl⟩

theorem applied_of_write {manifest : ManifestRecord} {sourceDevice : UInt32} {edits : List (StorageEdit ρ)}
    {draws : Nat → Draw} {manifestNonce : Bytes} {built : BuiltStorageWrite ρ}
    (hfresh : Fresh draws edits server manifest) (hnonce : manifestNonce.length = nonceLength)
    (hbuilt : buildStorageWrite c storageKey manifest sourceDevice edits draws manifestNonce = .ok built)
    (hwrite : server.write built.op = some server') :
    ∃ manifest', Applied c storageKey server server' manifest manifest' edits draws := by
  obtain ⟨st, hfold, hins, hdel, hman⟩ := buildStorageWrite_spec hbuilt
  obtain ⟨hver, hmanifest, hitems⟩ := write_spec hwrite
  obtain ⟨hv, hdec⟩ := decryptStorageManifest_encrypt c hman hnonce
  have hst : Built c storageKey manifest draws edits st := by
    refine Built.nil.edits hfold ?_
    intro edit he a ha
    exact hfresh.unnamed a (by simpa using ha) edit he
  have hpos : manifest.version + 1 ≠ 0 := by
    intro hzero
    rw [hv, hzero] at hver
    simp at hver
  rw [hins, hdel] at hitems
  have hnone : ∀ raw, (∀ a < edits.length, raw ≠ (draws a).id) → lookupItem st.insertItem raw = none := by
    intro raw hraw
    refine lookupItem_eq_none ?_
    intro item hm hkey
    obtain ⟨b, hb⟩ := mem_iff_getElem?.mp hm
    obtain ⟨hlt, hid⟩ := hst.mem_insertItem hb
    exact hraw b hlt (hkey.symm.trans hid)
  refine ⟨{ manifest with
    version := manifest.version + 1
    sourceDevice := sourceDevice
    identifiers := st.identifiers }, write_version hwrite, ?_, rfl, ?_, ?_, hst.kept, hst.listed, ?_⟩
  · rw [hmanifest]
    exact hdec hpos
  · intro raw hnamed hraw
    rw [hitems, hnone raw hraw]
    rw [if_neg (by rwa [hst.deleted])]
  · intro raw hnamed
    have hraw : ∀ a < edits.length, raw ≠ (draws a).id := by
      intro a ha heq
      obtain ⟨edit, he, hold⟩ := hnamed
      exact hfresh.unnamed a ha edit he (by rw [hold, heq])
    rw [hitems, hnone raw hraw]
    rw [if_pos (by rwa [hst.deleted])]
  · intro a edit he
    obtain ⟨raw, type, hraw, hold, hnew⟩ := hst.swapped a edit he
    obtain ⟨value, hval, henc⟩ := hst.inserted a edit he
    refine ⟨raw, type, value, hraw, hold, hnew, ?_, ?_⟩
    · rw [hitems, lookupItem_eq_some hval]
      intro b other hb hkey
      obtain ⟨hlt, hid⟩ := hst.mem_insertItem hb
      have hlt' := (List.getElem?_eq_some_iff.mp he).1
      have hab := hfresh.distinct b hlt a hlt' (hid.symm.trans hkey)
      subst hab
      rw [hval] at hb
      cases hb
      rfl
    · intro plaintext hmarshal hplain
      exact decryptStorageItem_encrypt c henc (draws a).nonce_length hmarshal hplain

end Write

section Devices

variable {ι ρ : Type} [DecidableEq ι] (c : Crypto ρ) (storageKey : Bytes) {server server' base : Server}
  {manifest : ManifestRecord} {device : Device ρ} {items : List StorageItem}

-- The version inside of the manifest is the one it is stored under.
def VersionsAgree (server : Server) : Prop :=
  ∀ manifest, decryptStorageManifest c storageKey server.manifest = .ok manifest →
    manifest.version = server.manifest.version

-- What a device knows about the state it fetched its manifest from. If the two
-- versions do not agree there, then no write can follow and the state stays current.
structure Based (server base : Server) (manifest : ManifestRecord) : Prop where
  newer : Newer Server.version base server
  agree : VersionsAgree c storageKey base ∨ base = server
  readable : decryptStorageManifest c storageKey base.manifest = .ok manifest

structure Fetched (wanted : List ItemType) (base : Server) (manifest : ManifestRecord)
    (remaining : List Bytes) (items : List StorageItem) : Prop where
  stored : ∀ item ∈ items, base.items item.key = some item.value
  complete : ∀ raw value, (wantedIDs manifest wanted (encodeToString raw)).isSome →
    base.items raw = some value → raw ∉ remaining → ⟨raw, value⟩ ∈ items

def Prepared (call : Call ρ) (base : Server) (manifest : ManifestRecord)
    (built : BuiltStorageWrite ρ) : Prop :=
  ∃ records edits draws manifestNonce, SnapshotOf c storageKey call.wanted base manifest records ∧
    call.mutate ⟨manifest, records⟩ = .ok edits ∧ Fresh draws edits base manifest ∧
    manifestNonce.length = nonceLength ∧
    buildStorageWrite c storageKey manifest call.sourceDevice edits draws manifestNonce = .ok built

-- As long as the state is still the one the manifest was fetched from, so is what was read since.
def PhaseInv (server : Server) (device : Device ρ) : Prop :=
  match device.phase with
  | .idle => True
  | .ready _ => True
  | .fetching _ base manifest remaining items =>
    Based c storageKey server base manifest ∧
      (base = server → Fetched device.call.wanted base manifest remaining items)
  | .writing _ base built => ∃ manifest, Based c storageKey server base manifest ∧
      built.op.manifest.version = manifest.version + 1 ∧
      (base = server → Prepared c storageKey device.call base manifest built)

def WorldInv (w : World ι ρ) : Prop := ∀ i, PhaseInv c storageKey w.server (w.devices i)

variable {c storageKey}

theorem Based.eq_of_write {op : WriteOperation} (h : Based c storageKey server base manifest)
    (hver : op.manifest.version = manifest.version + 1) (hwrite : server.write op = some server') :
    base = server ∧ VersionsAgree c storageKey server := by
  have hnext := (write_spec hwrite).1
  rw [hver, UInt64.toNat_add] at hnext
  have hlt := manifest.version.toNat_lt
  have hone : (1 : UInt64).toNat = 1 := rfl
  have hinner : manifest.version.toNat = server.version := by omega
  have hbase : base = server := by
    rcases h.agree with hagree | heq
    · have hv : server.version = base.version := by
        rw [← hinner, hagree manifest h.readable]
        rfl
      exact (h.newer.eq_of_version_eq hv).symm
    · exact heq
  refine ⟨hbase, ?_⟩
  intro manifest' hread
  rw [← hbase, h.readable] at hread
  cases hread
  exact UInt64.toNat_inj.mp hinner

theorem Based.write (h : Based c storageKey server base manifest) (hagree : VersionsAgree c storageKey server)
    (hlt : server.version < server'.version) : Based c storageKey server' base manifest := by
  refine ⟨h.newer.trans (.of_lt hlt), ?_, h.readable⟩
  left
  rcases h.agree with h' | h'
  · exact h'
  · rwa [h']

theorem PhaseInv.write (h : PhaseInv c storageKey server device) (hagree : VersionsAgree c storageKey server)
    (hlt : server.version < server'.version) : PhaseInv c storageKey server' device := by
  unfold PhaseInv at h ⊢
  cases hphase : device.phase with
  | idle => trivial
  | ready attempt => trivial
  | fetching attempt base manifest remaining items =>
    rw [hphase] at h
    obtain ⟨hbased, _⟩ := h
    exact ⟨hbased.write hagree hlt, fun heq => absurd heq (hbased.newer.ne_of_lt hlt)⟩
  | writing attempt base built =>
    rw [hphase] at h
    obtain ⟨manifest, hbased, hver, _⟩ := h
    exact ⟨manifest, hbased.write hagree hlt, hver,
      fun heq => absurd heq (hbased.newer.ne_of_lt hlt)⟩

theorem WorldInv.set {w : World ι ρ} (h : WorldInv c storageKey w) {i : ι}
    (hdev : PhaseInv c storageKey w.server device) : WorldInv c storageKey (w.set i device) := by
  intro j
  unfold World.set
  by_cases hj : j = i
  · simpa [hj] using hdev
  · simpa [hj] using h j

theorem mem_of_mapM {order : List String} {keys : List Bytes}
    (h : order.mapM decodeString = some keys) {raw : Bytes} (hm : encodeToString raw ∈ order) : raw ∈ keys := by
  induction order generalizing keys with
  | nil => cases hm
  | cons id rest ih =>
    rw [mapM_cons] at h
    obtain ⟨key, hkey, h⟩ := Option.bind_eq_some_iff.mp h
    obtain ⟨keys', hkeys', h⟩ := Option.bind_eq_some_iff.mp h
    cases h
    rcases mem_cons.mp hm with heq | hm
    · rw [← heq, decodeString_encodeToString] at hkey
      cases hkey
      exact mem_cons_self
    · exact mem_cons_of_mem _ (ih hkeys' hm)

theorem Fetched.chunk {wanted : List ItemType} {remaining : List Bytes} {chunk : List StorageItem} {count : ℕ}
    (h : Fetched wanted server manifest remaining items) (hchunk : server.Answers (remaining.take count) chunk) :
    Fetched wanted server manifest (remaining.drop count) (items ++ chunk) := by
  constructor
  · intro item hm
    rcases mem_append.mp hm with hm | hm
    · exact h.stored item hm
    · exact hchunk.stored item hm
  · intro raw value hwanted hitem hdrop
    by_cases hm : raw ∈ remaining
    · rw [← take_append_drop count remaining, mem_append] at hm
      have htake := hm.resolve_right hdrop
      exact mem_append_right _ (hchunk.complete raw htake value hitem)
    · exact mem_append_left _ (h.complete raw value hwanted hitem hm)

theorem Fetched.snapshot {wanted : List ItemType} (h : Fetched wanted server manifest [] items) :
    SnapshotOf c storageKey wanted server manifest (decryptStorageItems c storageKey
      manifest.recordIkm (wantedIDs manifest wanted) items) := by
  have hsame : Consistent items := by
    intro a ha b hb hkey
    have hval := h.stored a ha
    rw [hkey, h.stored b hb] at hval
    cases a
    cases b
    simp_all
  refine ⟨decryptStorageItems_nodup c storageKey _ _ _, ?_⟩
  intro r
  rw [mem_decryptStorageItems c storageKey _ hsame]
  constructor
  · rintro ⟨item, hm, hid, htype, hdec⟩
    exact ⟨item.key, item.value, hid, htype, h.stored item hm, hdec⟩
  · rintro ⟨raw, value, hid, htype, hitem, hdec⟩
    exact ⟨⟨raw, value⟩, h.complete raw value (by simp [htype]) hitem (by simp), hid, htype, hdec⟩

theorem phaseInv_prepareWrite {attempt : ℕ} {draws : Nat → Draw} {manifestNonce : Bytes}
    (hbased : Based c storageKey server base manifest)
    (hfetched : base = server → Fetched device.call.wanted base manifest [] items)
    (hnonce : manifestNonce.length = nonceLength)
    (hfresh : ∀ edits, device.call.mutate ⟨manifest, decryptStorageItems c storageKey
      manifest.recordIkm (wantedIDs manifest device.call.wanted) items⟩ = .ok edits →
      Fresh draws edits server manifest) :
    PhaseInv c storageKey server
      (prepareWrite c storageKey device attempt base manifest items draws manifestNonce) := by
  simp only [prepareWrite]
  split
  · trivial
  next edits hmut =>
    split
    · trivial
    split
    · trivial
    next built hbuilt =>
      refine ⟨manifest, hbased, ?_, ?_⟩
      · obtain ⟨st, _, _, _, hman⟩ := buildStorageWrite_spec hbuilt
        exact (decryptStorageManifest_encrypt c hman hnonce).1
      · intro heq
        refine ⟨_, edits, draws, manifestNonce, (hfetched heq).snapshot, hmut, ?_, hnonce,
          hbuilt⟩
        rw [heq]
        exact hfresh edits hmut

theorem worldInv_step {w w' : World ι ρ} {event : Event ι} (h : WorldInv c storageKey w)
    (hstep : Step c storageKey w event w') : WorldInv c storageKey w' := by
  cases hstep with
  | start i call hphase => exact h.set trivial
  | fetchManifest i attempt manifest order keys hphase hatt hman hord hkeys =>
    refine h.set ⟨⟨.refl _, .inr rfl, hman⟩, fun _ => ⟨by simp, ?_⟩⟩
    intro raw value hwanted _ hkey
    exact absurd (mem_of_mapM hkeys ((hord.2 _).mpr hwanted)) hkey
  | fetchRecords i attempt base manifest remaining items chunk hphase hremaining hchunk =>
    have hi := h i
    unfold PhaseInv at hi
    rw [hphase] at hi
    refine h.set ⟨hi.1, ?_⟩
    intro heq
    have hf := hi.2 heq
    rw [heq] at hf ⊢
    exact hf.chunk hchunk
  | mutate i attempt base manifest items draws manifestNonce hphase hnonce hfresh =>
    have hi := h i
    unfold PhaseInv at hi
    rw [hphase] at hi
    exact h.set (phaseInv_prepareWrite hi.1 hi.2 hnonce hfresh)
  | accept i attempt base server built result hphase hwrite hres =>
    have hi := h i
    unfold PhaseInv at hi
    rw [hphase] at hi
    obtain ⟨manifest, hbased, hver, _⟩ := hi
    have hagree := (hbased.eq_of_write hver hwrite).2
    have hlt : w.server.version < server.version := by
      rw [write_version hwrite]
      omega
    have hnew : WorldInv c storageKey { w with server := server } :=
      fun j => (h j).write hagree hlt
    exact hnew.set trivial
  | conflict i attempt base built hphase =>
    refine h.set ?_
    split <;> trivial
  | fail i err herr => exact h.set trivial

end Devices

-- For any number of devices and any order of their steps, an accepted write replaces the current state
-- by the edit function applied to its records.
theorem accepted_write_applies_edits {ι ρ : Type} [DecidableEq ι] (c : Crypto ρ) (storageKey : Bytes)
    {w₀ w w' : World ι ρ} {events : List (Event ι)} {i : ι}
    (hinit : ∀ j, (w₀.devices j).phase = .idle) (hrun : Run (Step c storageKey) w₀ events w)
    (haccept : Step c storageKey w (.accepted i) w') :
    ∃ manifest manifest' records edits draws,
      decryptStorageManifest c storageKey w.server.manifest = .ok manifest ∧
      SnapshotOf c storageKey (w.devices i).call.wanted w.server manifest records ∧
      (w.devices i).call.mutate ⟨manifest, records⟩ = .ok edits ∧
      Fresh draws edits w.server manifest ∧
      Applied c storageKey w.server w'.server manifest manifest' edits draws := by
  have hinv : WorldInv c storageKey w := by
    refine Run.invariant (I := WorldInv c storageKey) (fun _ _ _ => worldInv_step) hrun ?_
    intro j
    unfold PhaseInv
    rw [hinit j]
    trivial
  cases haccept with
  | accept _ attempt base server built result hphase hwrite hres =>
    have hi := hinv i
    unfold PhaseInv at hi
    rw [hphase] at hi
    obtain ⟨manifest, hbased, hver, hprepared⟩ := hi
    have heq := (hbased.eq_of_write hver hwrite).1
    obtain ⟨records, edits, draws, manifestNonce, hsnap, hmut, hfresh, hnonce, hbuilt⟩ :=
      hprepared heq
    have hread := hbased.readable
    rw [heq] at hsnap hfresh hread
    obtain ⟨manifest', happlied⟩ := applied_of_write hfresh hnonce hbuilt hwrite
    exact ⟨manifest, manifest', records, edits, draws, hread, hsnap, hmut, hfresh, happlied⟩

-- One contact record that is not blocked, edited to be blocked. The ciphertexts and keys
-- are those of HMAC-SHA256 and AES-256-GCM, the plaintexts those of protobuf.
def sampleKey : Bytes := List.replicate 32 1
def sampleID : Bytes := List.replicate 16 7

def sampleDraw : Draw := ⟨List.replicate 16 9, List.replicate 12 5, rfl, rfl⟩

def sampleManifest : ManifestRecord := ⟨1, 1, [⟨sampleID, .contact⟩], []⟩
def editedManifest : ManifestRecord := ⟨2, 2, [⟨sampleDraw.id, .contact⟩], []⟩

def manifestBytes (n : UInt8) (id : Bytes) : Bytes := [8, n, 18, 20, 10, 16] ++ id ++ [16, 1, 24, n]

def sampleManifests : List (ManifestRecord × Bytes) :=
  [(sampleManifest, manifestBytes 1 sampleID), (editedManifest, manifestBytes 2 sampleDraw.id)]

def sampleHMAC : List (String × Bytes) :=
  [("Manifest_1", [39, 59, 222, 189, 157, 111, 170, 4, 164, 222, 136, 234, 137, 131, 53, 181,
      49, 145, 211, 137, 50, 94, 125, 75, 26, 240, 44, 189, 37, 122, 73, 62]),
    ("Manifest_2", [255, 161, 143, 52, 184, 112, 65, 250, 212, 86, 5, 181, 143, 119, 114, 175,
      43, 177, 225, 206, 248, 82, 84, 204, 188, 241, 124, 77, 49, 124, 126, 49]),
    ("Item_BwcHBwcHBwcHBwcHBwcHBw==", [104, 170, 16, 190, 77, 67, 38, 101, 151, 184, 219, 116,
      247, 217, 68, 184, 243, 129, 117, 146, 241, 147, 64, 110, 23, 131, 206, 183, 152, 102, 76, 159]),
    ("Item_CQkJCQkJCQkJCQkJCQkJCQ==", [242, 90, 111, 162, 174, 16, 82, 6, 81, 179, 116, 239,
      195, 141, 63, 249, 126, 199, 32, 112, 85, 124, 207, 57, 38, 2, 178, 40, 34, 111, 26, 28])]

def sampleHMACOf (key data : Bytes) : Bytes :=
  if key = sampleKey then ((sampleHMAC.find? fun e => utf8 e.1 = data).map Prod.snd).getD [] else []

structure SampleSeal where
  key : Bytes
  nonce : Bytes
  plaintext : Bytes
  ciphertext : Bytes

def sealWith (label : String) (byte : UInt8) (plaintext ciphertext : Bytes) : SampleSeal :=
  ⟨sampleHMACOf sampleKey (utf8 label), List.replicate 12 byte, plaintext, ciphertext⟩

def sealedManifest : Bytes :=
  [147, 2, 164, 30, 124, 200, 250, 124, 67, 102, 186, 63, 249, 98, 20, 210, 156, 86, 124, 171, 228, 66, 175, 17, 192,
    126, 106, 159, 201, 54, 170, 238, 176, 155, 142, 74, 150, 139, 83, 243, 162, 158]

def sealedEdit : Bytes :=
  [55, 163, 245, 213, 96, 229, 35, 206, 253, 82, 23, 166, 217, 80, 120, 86, 163, 71, 151, 227, 10, 53, 210, 59, 51, 125,
    100, 160, 137, 251, 139, 10, 177, 102, 52, 32, 79, 149, 130, 93, 167, 129]

def manifestSeals : List SampleSeal :=
  [sealWith "Manifest_1" 2 (manifestBytes 1 sampleID) sealedManifest,
    sealWith "Manifest_2" 4 (manifestBytes 2 sampleDraw.id) sealedEdit]

def plainItem : Bytes := [199, 126, 139, 141, 99, 23, 31, 102, 151, 182, 253, 46, 181, 81, 60, 251, 220, 231]

def blockedItem : Bytes :=
  [185, 56, 184, 49, 251, 212, 23, 135, 172, 251, 95, 173, 199, 114, 168, 165, 55, 143, 238, 15]

def itemSeals : List SampleSeal :=
  [sealWith "Item_BwcHBwcHBwcHBwcHBwcHBw==" 3 [10, 0] plainItem,
    sealWith "Item_CQkJCQkJCQkJCQkJCQkJCQ==" 5 [10, 2, 72, 1] blockedItem]

def tabled {α β : Type} (table : List α) (p : α → Bool) (value : α → β) : Except String β :=
  match table.find? p with
  | some e => .ok (value e)
  | none => .error "not in the sample"

theorem tabled_eq_ok {α β : Type} {table : List α} {p : α → Bool} {value : α → β} {b : β}
    (h : tabled table p value = .ok b) : ∃ e ∈ table, p e = true ∧ value e = b := by
  unfold tabled at h
  split at h
  · next e he => exact ⟨e, mem_of_find?_eq_some he, find?_some he, Except.ok.inj h⟩
  · cases h

theorem tabled_inverse {α : Type} [DecidableEq α] {table : List (α × Bytes)} {a : α} {b : Bytes}
    (ht : ∀ e ∈ table, tabled table (·.2 = e.2) Prod.fst = .ok e.1) (h : tabled table (·.1 = a) Prod.snd = .ok b) :
    tabled table (·.2 = b) Prod.fst = .ok a := by
  obtain ⟨e, he, heq, rfl⟩ := tabled_eq_ok h
  obtain rfl := of_decide_eq_true heq
  exact ht e he

-- Protobuf and AES-GCM on the values of two tables.
def tableCrypto {ρ : Type} [DecidableEq ρ] (records : List (ρ × Bytes)) (seals : List SampleSeal)
    (hrecs : ∀ e ∈ records, tabled records (·.2 = e.2) Prod.fst = .ok e.1)
    (hseals : ∀ e ∈ seals, tabled seals (fun s => s.key = e.key ∧ s.nonce = e.nonce ∧ s.ciphertext = e.ciphertext)
      SampleSeal.plaintext = .ok e.plaintext ∧ e.ciphertext.length = e.plaintext.length + 16) : Crypto ρ where
  marshalRecord record := tabled records (·.1 = record) Prod.snd
  unmarshalRecord b := tabled records (·.2 = b) Prod.fst
  marshalManifest m := tabled sampleManifests (·.1 = m) Prod.snd
  unmarshalManifest b := tabled sampleManifests (·.2 = b) Prod.fst
  hmac := sampleHMACOf
  hkdf _ _ := []
  aesgcmEncrypt key nonce p :=
    tabled seals (fun s => s.key = key ∧ s.nonce = nonce ∧ s.plaintext = p) SampleSeal.ciphertext
  aesgcmDecrypt key nonce ct :=
    tabled seals (fun s => s.key = key ∧ s.nonce = nonce ∧ s.ciphertext = ct) SampleSeal.plaintext
  unmarshalRecord_marshal _ _ := tabled_inverse hrecs
  unmarshalManifest_marshal _ _ := tabled_inverse (by decide)
  marshalManifest_nonempty := by
    intro m b h _
    have hall : ∀ e ∈ sampleManifests, e.2 ≠ [] := by decide
    obtain ⟨e, he, -, rfl⟩ := tabled_eq_ok h
    exact hall e he
  aesgcmDecrypt_encrypt := by
    intro key nonce p ct h
    obtain ⟨e, he, heq, rfl⟩ := tabled_eq_ok h
    obtain ⟨rfl, rfl, rfl⟩ := of_decide_eq_true heq
    exact (hseals e he).1
  aesgcmEncrypt_length := by
    intro key nonce p ct h
    obtain ⟨e, he, heq, rfl⟩ := tabled_eq_ok h
    obtain ⟨-, -, rfl⟩ := of_decide_eq_true heq
    exact (hseals e he).2

def sampleCrypto : Crypto Bool :=
  tableCrypto [(true, [10, 2, 72, 1]), (false, [10, 0])] (itemSeals ++ manifestSeals) (by decide) (by decide +kernel)

def sampleServer : Server where
  manifest := ⟨1, List.replicate 12 2 ++ sealedManifest⟩
  items key := if key = sampleID then some (List.replicate 12 3 ++ plainItem) else none

def editAll {ρ : Type} (record : ρ) : Call ρ where
  sourceDevice := 2
  wanted := [.contact]
  mutate snapshot := .ok (snapshot.records.map fun r => ⟨r.storageID, record⟩)

def sampleItem : StorageItem := ⟨sampleID, List.replicate 12 3 ++ plainItem⟩

-- The write that replaces the sample's record.
def sampleWriteOf {ρ : Type} (record : ρ) (value : Bytes) : BuiltStorageWrite ρ where
  op :=
    { manifest := ⟨2, List.replicate 12 4 ++ sealedEdit⟩
      insertItem := [⟨sampleDraw.id, sampleDraw.nonce ++ value⟩]
      deleteKey := [sampleID] }
  newRecords := [⟨.contact, encodeToString sampleDraw.id, record⟩]

def sampleWrite : BuiltStorageWrite Bool := sampleWriteOf true blockedItem

theorem sample_build : buildStorageWrite sampleCrypto sampleKey sampleManifest 2
    [⟨encodeToString sampleID, true⟩] (fun _ => sampleDraw) (List.replicate 12 4) = .ok sampleWrite := by
  decide +kernel

section Steps

variable {ι ρ : Type} [DecidableEq ι] {c : Crypto ρ} {w : World ι ρ} {i : ι} {call : Call ρ} {base : Server}
  {phase : Phase ρ} {chunk : List StorageItem}

def World.put (w : World ι ρ) (i : ι) (call : Call ρ) (phase : Phase ρ) : World ι ρ :=
  w.set i { call := call, phase := phase }

theorem World.devices_put : (w.put i call phase).devices i = { call := call, phase := phase } :=
  if_pos rfl

theorem World.set_put (device : Device ρ) : (w.put i call phase).set i device = w.set i device := by
  simp only [put, World.set]
  congr 1
  funext j
  split <;> rfl

theorem sample_asks (hread : decryptStorageManifest c sampleKey w.server.manifest = .ok sampleManifest)
    (hwanted : call.wanted = [.contact]) :
    Step c sampleKey (w.put i call (.ready 0)) (.progress i)
      (w.put i call (.fetching 0 w.server sampleManifest [sampleID] [])) := by
  have hord : [encodeToString sampleID].Nodup ∧ ∀ id, id ∈ [encodeToString sampleID] ↔
      (wantedIDs sampleManifest call.wanted id).isSome := by
    have hids : wantedIDs sampleManifest [.contact] =
        IDMap.set (fun _ => none) (encodeToString sampleID) .contact := rfl
    refine ⟨by simp, fun id => ?_⟩
    rw [hwanted, hids, IDMap.set, mem_singleton]
    split <;> simp_all
  have hkeys : [encodeToString sampleID].mapM decodeString = some [sampleID] := by
    simp [decodeString_encodeToString]
  have hstep : Step c sampleKey _ (.progress i) _ :=
    .fetchManifest (w.put i call (.ready 0)) i 0 sampleManifest _ _ (by rw [devices_put]) (by decide) hread
      (by rwa [devices_put]) hkeys
  rwa [set_put, devices_put] at hstep

theorem sample_fetches (hsto : ∀ item ∈ chunk, w.server.items item.key = some item.value)
    (hcomp : ∀ value, w.server.items sampleID = some value → ⟨sampleID, value⟩ ∈ chunk) :
    Step c sampleKey (w.put i call (.fetching 0 base sampleManifest [sampleID] [])) (.progress i)
      (w.put i call (.fetching 0 base sampleManifest [] chunk)) := by
  have hanswers : (w.put i call (.fetching 0 base sampleManifest [sampleID] [])).server.Answers
      ([sampleID].take maxReadStorageRecords) chunk := by
    refine ⟨hsto, fun key hm value hv => ?_⟩
    obtain rfl : key = sampleID := by simpa [maxReadStorageRecords] using hm
    exact hcomp value hv
  have hstep : Step c sampleKey _ (.progress i) _ :=
    .fetchRecords _ i 0 base sampleManifest _ [] chunk (by rw [devices_put]) (by simp) hanswers
  rwa [set_put, devices_put] at hstep

variable {built : BuiltStorageWrite ρ}

theorem sample_writes {item : StorageItem} {record : ρ} (hfree : w.server.items sampleDraw.id = none)
    (hdev : call.sourceDevice = 2) (hmut : call.mutate ⟨sampleManifest, decryptStorageItems c sampleKey
      sampleManifest.recordIkm (wantedIDs sampleManifest call.wanted) [item]⟩ = .ok [⟨encodeToString sampleID,
      record⟩]) (hbuild : buildStorageWrite c sampleKey sampleManifest 2 [⟨encodeToString sampleID, record⟩] (fun _ =>
      sampleDraw) (List.replicate 12 4) = .ok built) :
    Step c sampleKey (w.put i call (.fetching 0 base sampleManifest [] [item])) (.progress i)
      (w.put i call (.writing 0 base built)) := by
  have hstep : Step c sampleKey _ (.progress i) _ :=
    .mutate (w.put i call (.fetching 0 base sampleManifest [] [item])) i 0 base sampleManifest [item]
      (fun _ => sampleDraw) (List.replicate 12 4) (by rw [devices_put]) rfl fun edits hedits => by
        rw [devices_put, hmut] at hedits
        obtain rfl := Except.ok.inj hedits
        refine ⟨fun a ha b hb _ => ?_, fun _ _ => hfree, fun _ _ => by decide, fun _ _ edit he => ?_⟩
        · simp only [length_singleton] at ha hb
          omega
        · rw [mem_singleton.mp he, decodeString_encodeToString]
          decide
  rw [set_put, devices_put] at hstep
  simp only [prepareWrite, hmut, hdev, hbuild] at hstep
  exact hstep

-- One device reads the record at the server and is about to write it, edited.
theorem sample_run (call : Call ρ) {P : Server → Prop} (hP : P w.server) {value : Bytes} {record : ρ}
    (hidle : (w.devices i).phase = .idle)
    (hread : decryptStorageManifest c sampleKey w.server.manifest = .ok sampleManifest)
    (hval : w.server.items sampleID = some value) (hfree : w.server.items sampleDraw.id = none)
    (hwanted : call.wanted = [.contact]) (hdev : call.sourceDevice = 2) (hmut : call.mutate ⟨sampleManifest,
      decryptStorageItems c sampleKey sampleManifest.recordIkm (wantedIDs sampleManifest call.wanted) [⟨sampleID,
      value⟩]⟩ = .ok [⟨encodeToString sampleID, record⟩]) (hbuild : buildStorageWrite c sampleKey sampleManifest 2
      [⟨encodeToString sampleID, record⟩] (fun _ => sampleDraw) (List.replicate 12 4) = .ok built) :
    ∃ events, Run (Guarded (fun w _ => P w.server) (Step c sampleKey)) w events
      (w.put i call (.writing 0 w.server built)) := by
  have hfetch : Step c sampleKey (w.put i call (.fetching 0 w.server sampleManifest [sampleID] [])) (.progress i)
      (w.put i call (.fetching 0 w.server sampleManifest [] [⟨sampleID, value⟩])) := by
    refine sample_fetches (fun item hmem => ?_) fun v hv => ?_
    · rw [mem_singleton.mp hmem]
      exact hval
    · rw [Option.some.inj (hv.symm.trans hval)]
      exact mem_singleton_self _
  exact ⟨_, .cons ⟨hP, .start w i call hidle⟩ (.cons ⟨hP, sample_asks hread hwanted⟩ (.cons ⟨hP, hfetch⟩
    (.single ⟨hP, sample_writes hfree hdev hmut hbuild⟩)))⟩

theorem sample_accepts {server : Server} (hwrite : w.server.write built.op = some server) :
    Step c sampleKey (w.put i call (.writing 0 base built)) (.accepted i)
      ({ w with server := server }.set i ⟨call, .idle, .ok (some built)⟩) := by
  have hstep : Step c sampleKey _ (.accepted i) _ :=
    .accept (w.put i call (.writing 0 base built)) i 0 base server built _ (by rw [devices_put]) hwrite (.inl rfl)
  rw [devices_put] at hstep
  exact set_put (w := { w with server := server }) _ ▸ hstep

end Steps

def sampleWorld {ρ : Type} (call : Call ρ) : World Unit ρ := ⟨sampleServer, fun _ => { call := call }⟩

theorem accepted_write_applies_edits_sample : ∃ w w' : World Unit Bool,
    w = (sampleWorld (editAll true)).put () (editAll true) (.writing 0 sampleServer sampleWrite) ∧
    Step sampleCrypto sampleKey w (.accepted ()) w' ∧ ∃ manifest manifest' records edits draws,
      decryptStorageManifest sampleCrypto sampleKey w.server.manifest = .ok manifest ∧
      SnapshotOf sampleCrypto sampleKey (w.devices ()).call.wanted w.server manifest records ∧
      (w.devices ()).call.mutate ⟨manifest, records⟩ = .ok edits ∧ Fresh draws edits w.server manifest ∧
      Applied sampleCrypto sampleKey w.server w'.server manifest manifest' edits draws := by
  obtain ⟨events, hrun⟩ := sample_run (w := sampleWorld (editAll true)) (i := ()) (editAll true)
    (P := fun _ => True) trivial rfl (by decide +kernel) rfl rfl rfl rfl (by decide +kernel) sample_build
  have haccept : Step sampleCrypto sampleKey ((sampleWorld (editAll true)).put () (editAll true)
      (.writing 0 sampleServer sampleWrite)) (.accepted ()) _ := sample_accepts (if_pos rfl)
  exact ⟨_, _, rfl, haccept, accepted_write_applies_edits sampleCrypto sampleKey (fun _ => rfl)
    (hrun.mono fun _ _ _ h => h.2) haccept⟩

def bareTag : Bytes := [100, 40, 150, 96, 148, 194, 76, 214, 63, 222, 34, 163, 144, 142, 199, 69]

-- The sample with one more record, which has no field. It is no bytes on the wire, and AES-GCM gives the tag alone.
def bareCrypto : Crypto (Option Bool) :=
  tableCrypto [(none, []), (some true, [10, 2, 72, 1]), (some false, [10, 0])]
    (sealWith "Item_CQkJCQkJCQkJCQkJCQkJCQ==" 5 [] bareTag :: itemSeals ++ manifestSeals) (by decide)
    (by decide +kernel)

def bareWrite : BuiltStorageWrite (Option Bool) := sampleWriteOf none bareTag

theorem bare_build : buildStorageWrite bareCrypto sampleKey sampleManifest 2 [⟨encodeToString sampleID, none⟩]
    (fun _ => sampleDraw) (List.replicate 12 4) = .ok bareWrite := by
  decide +kernel

theorem bare_unreadable : decryptStorageItem bareCrypto sampleKey sampleManifest.recordIkm
    ⟨sampleDraw.id, sampleDraw.nonce ++ bareTag⟩ = .error (.crypto "invalid encryptedBytes length") := by
  decide +kernel

-- The edit function empties the record it has read. The write is accepted, the old record is gone from the server, and
-- the new one cannot be read there.
theorem accepted_bare_record_lost : ∃ events, ∃ w w' : World Unit (Option Bool),
    Run (Step bareCrypto sampleKey) (sampleWorld (editAll none)) events w ∧
    Step bareCrypto sampleKey w (.accepted ()) w' ∧
    decryptStorageItem bareCrypto sampleKey sampleManifest.recordIkm sampleItem = .ok (some false) ∧
    w'.server.items sampleID = none ∧ w'.server.items sampleDraw.id = some (sampleDraw.nonce ++ bareTag) ∧
    decryptStorageItem bareCrypto sampleKey sampleManifest.recordIkm ⟨sampleDraw.id, sampleDraw.nonce ++ bareTag⟩ =
      .error (.crypto "invalid encryptedBytes length") := by
  obtain ⟨events, hrun⟩ := sample_run (w := sampleWorld (editAll none)) (i := ()) (editAll none)
    (P := fun _ => True) trivial rfl (by decide +kernel) rfl rfl rfl rfl (by decide +kernel) bare_build
  have hwrite : sampleServer.write bareWrite.op = some _ := if_pos rfl
  obtain ⟨-, -, hitems⟩ := write_spec hwrite
  exact ⟨events, _, _, hrun.mono fun _ _ _ h => h.2, sample_accepts hwrite, by decide +kernel,
    (hitems _).trans (by decide), (hitems _).trans (by decide), bare_unreadable⟩

end MautrixSignal.Storage
