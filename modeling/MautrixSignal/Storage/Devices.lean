import MautrixSignal.Storage

namespace MautrixSignal.Storage

open Lib.Base64

structure Server where
  manifest : StorageManifest
  items : Bytes → Option Bytes

def Server.version (server : Server) : ℕ := server.manifest.version.toNat

def lookupItem (items : List StorageItem) (key : Bytes) : Option Bytes :=
  (items.find? fun item => item.key = key).map StorageItem.value

-- A write is accepted only one version above the stored one. Its deletes and
-- inserts are applied together.
def Server.write (server : Server) (op : WriteOperation) : Option Server :=
  if op.manifest.version.toNat = server.version + 1 then
    some
      { manifest := op.manifest
        items := fun key =>
          match lookupItem op.insertItem key with
          | some value => some value
          | none => if key ∈ op.deleteKey then none else server.items key }
  else none

-- One answer to fetchStorageItemsChunk: stored items only, and all of the stored
-- ones that were asked for.
structure Server.Answers (server : Server) (keys : List Bytes) (items : List StorageItem) : Prop where
  stored : ∀ item ∈ items, server.items item.key = some item.value
  complete : ∀ key ∈ keys, ∀ value, server.items key = some value → ⟨key, value⟩ ∈ items

structure Call (ρ : Type) where
  sourceDevice : UInt32
  wanted : List ItemType
  mutate : StorageSnapshot ρ → Except String (List (StorageEdit ρ))

-- Where a device is in modifyStorage. The server state at the manifest fetch is
-- remembered for the proofs, no step depends on it.
inductive Phase (ρ : Type)
  | idle
  | ready (attempt : ℕ)
  | fetching (attempt : ℕ) (base : Server) (manifest : ManifestRecord) (remaining : List Bytes)
      (items : List StorageItem)
  | writing (attempt : ℕ) (base : Server) (built : BuiltStorageWrite ρ)

structure Device (ρ : Type) where
  call : Call ρ
  phase : Phase ρ := .idle
  result : Except StorageError (Option (BuiltStorageWrite ρ)) := .ok none

def Device.finish {ρ : Type} (device : Device ρ)
    (result : Except StorageError (Option (BuiltStorageWrite ρ))) : Device ρ :=
  { device with phase := .idle, result := result }

structure World (ι ρ : Type) where
  server : Server
  devices : ι → Device ρ

def World.set {ι ρ : Type} [DecidableEq ι] (w : World ι ρ) (i : ι) (device : Device ρ) : World ι ρ :=
  { w with devices := fun j => if j = i then device else w.devices j }

-- The IDs drawn for a write do not collide with each other, with a stored item, with
-- an identifier of the manifest or with an ID that an edit names.
structure Fresh {ρ : Type} (draws : Nat → Draw) (edits : List (StorageEdit ρ)) (server : Server)
    (manifest : ManifestRecord) : Prop where
  distinct : ∀ a < edits.length, ∀ b < edits.length, (draws a).id = (draws b).id → a = b
  unstored : ∀ a < edits.length, server.items (draws a).id = none
  unlisted : ∀ a < edits.length, ∀ ident ∈ manifest.identifiers, ident.raw ≠ (draws a).id
  unnamed : ∀ a < edits.length, ∀ edit ∈ edits, decodeString edit.oldID ≠ some (draws a).id

section Step

variable {ι ρ : Type} [DecidableEq ι] (c : Crypto ρ) (storageKey : Bytes)

def prepareWrite (device : Device ρ) (attempt : ℕ) (base : Server) (manifest : ManifestRecord)
    (items : List StorageItem) (draws : Nat → Draw) (manifestNonce : Bytes) : Device ρ :=
  let records := decryptStorageItems c storageKey manifest.recordIkm
    (wantedIDs manifest device.call.wanted) items
  match device.call.mutate ⟨manifest, records⟩ with
  | .error text => device.finish (.error (.mutate text))
  | .ok edits =>
    if edits.length = 0 then device.finish (.ok none)
    else
      match buildStorageWrite c storageKey manifest device.call.sourceDevice edits draws manifestNonce with
      | .error err => device.finish (.error err)
      | .ok built => { device with phase := .writing attempt base built }

inductive Event (ι : Type)
  | accepted (i : ι)
  | progress (i : ι)

-- The steps of the devices in any order. Every request can also fail on its own, and
-- the answer to an accepted write can be lost.
inductive Step : World ι ρ → Event ι → World ι ρ → Prop
  | start (w : World ι ρ) (i : ι) (call : Call ρ) (hphase : (w.devices i).phase = .idle) :
      Step w (.progress i) (w.set i { call := call, phase := .ready 0 })
  | fetchManifest (w : World ι ρ) (i : ι) (attempt : ℕ) (manifest : ManifestRecord)
      (order : List String) (keys : List Bytes)
      (hphase : (w.devices i).phase = .ready attempt) (hattempt : attempt < maxStorageWriteRetries)
      (hmanifest : decryptStorageManifest c storageKey w.server.manifest = .ok manifest)
      -- the order in which the map of wanted IDs is iterated
      (horder : order.Nodup ∧
        ∀ id, id ∈ order ↔ (wantedIDs manifest (w.devices i).call.wanted id).isSome)
      (hkeys : order.mapM decodeString = some keys) :
      Step w (.progress i) (w.set i { w.devices i with
        phase := .fetching attempt w.server manifest keys [] })
  | fetchRecords (w : World ι ρ) (i : ι) (attempt : ℕ) (base : Server) (manifest : ManifestRecord)
      (remaining : List Bytes) (items chunk : List StorageItem)
      (hphase : (w.devices i).phase = .fetching attempt base manifest remaining items)
      (hremaining : remaining ≠ [])
      (hchunk : w.server.Answers (remaining.take maxReadStorageRecords) chunk) :
      Step w (.progress i) (w.set i { w.devices i with
        phase := .fetching attempt base manifest (remaining.drop maxReadStorageRecords) (items ++ chunk) })
  | mutate (w : World ι ρ) (i : ι) (attempt : ℕ) (base : Server) (manifest : ManifestRecord)
      (items : List StorageItem) (draws : Nat → Draw) (manifestNonce : Bytes)
      (hphase : (w.devices i).phase = .fetching attempt base manifest [] items)
      (hnonce : manifestNonce.length = nonceLength)
      (hfresh : ∀ edits, (w.devices i).call.mutate ⟨manifest, decryptStorageItems c storageKey
        manifest.recordIkm (wantedIDs manifest (w.devices i).call.wanted) items⟩ = .ok edits →
        Fresh draws edits w.server manifest) :
      Step w (.progress i) (w.set i
        (prepareWrite c storageKey (w.devices i) attempt base manifest items draws manifestNonce))
  | accept (w : World ι ρ) (i : ι) (attempt : ℕ) (base server : Server)
      (built : BuiltStorageWrite ρ) (result : Except StorageError (Option (BuiltStorageWrite ρ)))
      (hphase : (w.devices i).phase = .writing attempt base built)
      (hwrite : w.server.write built.op = some server)
      (hresult : result = .ok (some built) ∨ ∃ text, result = .error (.request text)) :
      Step w (.accepted i) ({ w with server := server }.set i ((w.devices i).finish result))
  | conflict (w : World ι ρ) (i : ι) (attempt : ℕ) (base : Server) (built : BuiltStorageWrite ρ)
      (hphase : (w.devices i).phase = .writing attempt base built) :
      Step w (.progress i) (w.set i
        (if attempt + 1 < maxStorageWriteRetries then { w.devices i with phase := .ready (attempt + 1) }
          else (w.devices i).finish (.error .conflict)))
  | fail (w : World ι ρ) (i : ι) (err : StorageError) (herr : ∀ text, err ≠ .mutate text) :
      Step w (.progress i) (w.set i ((w.devices i).finish (.error err)))

end Step

end MautrixSignal.Storage
