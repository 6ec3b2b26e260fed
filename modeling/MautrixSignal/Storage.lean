import MautrixSignal.Identifiers
import MautrixSignal.Lib.Base64

namespace MautrixSignal.Storage

open Lib.Base64

-- ManifestRecord_Identifier_Type is an open enum: other numbers are kept.
inductive ItemType
  | unknown | contact | groupV1 | groupV2 | account | storyDistributionList | stickerPack
  | callLink | chatFolder | notificationProfile | favoriteSticker
  | unrecognized (number : Int)
deriving DecidableEq

structure Identifier where
  raw : Bytes
  type : ItemType
deriving DecidableEq

-- recordIkm has no presence on the wire, so nil and empty are the same.
structure ManifestRecord where
  version : UInt64
  sourceDevice : UInt32
  identifiers : List Identifier
  recordIkm : Bytes
deriving DecidableEq

structure StorageManifest where
  version : UInt64
  value : Bytes
deriving DecidableEq

structure StorageItem where
  key : Bytes
  value : Bytes
deriving DecidableEq

structure WriteOperation where
  manifest : StorageManifest
  insertItem : List StorageItem
  deleteKey : List Bytes
deriving DecidableEq

-- The parts that are not in the repository: protobuf for the record and the
-- manifest, and the cryptography, with what they promise.
structure Crypto (ρ : Type) where
  marshalRecord : ρ → Except String Bytes
  unmarshalRecord : Bytes → Except String ρ
  marshalManifest : ManifestRecord → Except String Bytes
  unmarshalManifest : Bytes → Except String ManifestRecord
  hmac : (key data : Bytes) → Bytes
  hkdf : (ikm info : Bytes) → Bytes
  aesgcmEncrypt : (key nonce plaintext : Bytes) → Except String Bytes
  aesgcmDecrypt : (key nonce ciphertext : Bytes) → Except String Bytes
  unmarshalRecord_marshal : ∀ r b, marshalRecord r = .ok b → unmarshalRecord b = .ok r
  unmarshalManifest_marshal : ∀ m b, marshalManifest m = .ok b → unmarshalManifest b = .ok m
  marshalManifest_nonempty : ∀ m b, marshalManifest m = .ok b → m.version ≠ 0 → b ≠ []
  aesgcmDecrypt_encrypt : ∀ key nonce p ct,
    aesgcmEncrypt key nonce p = .ok ct → aesgcmDecrypt key nonce ct = .ok p
  aesgcmEncrypt_length : ∀ key nonce p ct,
    aesgcmEncrypt key nonce p = .ok ct → ct.length = p.length + 16

inductive StorageError
  | crypto (text : String)
  | nothingToDo
  | editedTwice (oldID : String)
  | invalidStorageID (oldID : String)
  | notInManifest (oldID : String)
  | mutate (text : String)
  | conflict
  | request (text : String)
deriving DecidableEq

structure StorageEdit (ρ : Type) where
  oldID : String
  record : ρ
deriving DecidableEq

structure DecryptedStorageRecord (ρ : Type) where
  itemType : ItemType
  storageID : String
  storageRecord : ρ
deriving DecidableEq

structure StorageSnapshot (ρ : Type) where
  manifest : ManifestRecord
  records : List (DecryptedStorageRecord ρ)

structure BuiltStorageWrite (ρ : Type) where
  op : WriteOperation
  newRecords : List (DecryptedStorageRecord ρ)
deriving DecidableEq

def nonceLength : Nat := 12
def storageItemIDLength : Nat := 16
def maxStorageWriteRetries : Nat := 5
def maxReadStorageRecords : Nat := 2500

structure Draw where
  id : Bytes
  nonce : Bytes
  id_length : id.length = storageItemIDLength
  nonce_length : nonce.length = nonceLength

section Crypto

variable {ρ : Type} (c : Crypto ρ)

def utf8 (s : String) : Bytes := s.toUTF8.toList

variable (storageKey : Bytes)

def deriveStorageManifestKey (version : UInt64) : Bytes :=
  c.hmac storageKey (utf8 s!"Manifest_{version.toNat}")

def storageServiceItemKeyInfoPrefix : String := "20240801_SIGNAL_STORAGE_SERVICE_ITEM_"

variable (recordIKM : Bytes)

def deriveStorageItemKey (rawItemID : Bytes) (b64ItemID : String) : Bytes :=
  if recordIKM = [] then c.hmac storageKey (utf8 s!"Item_{b64ItemID}")
  else c.hkdf recordIKM (utf8 storageServiceItemKeyInfoPrefix ++ rawItemID)

def encryptStorageBlob (key nonce plaintext : Bytes) : Except StorageError Bytes :=
  match c.aesgcmEncrypt key nonce plaintext with
  | .error text => .error (.crypto text)
  | .ok ciphertext => .ok (nonce ++ ciphertext)

def decryptBytes (key encryptedText : Bytes) : Except StorageError Bytes :=
  if encryptedText.length < nonceLength + 16 + 1 then .error (.crypto "invalid encryptedBytes length")
  else (c.aesgcmDecrypt key (encryptedText.take nonceLength) (encryptedText.drop nonceLength)).mapError .crypto

def encryptStorageRecord (id nonce : Bytes) (record : ρ) :
    Except StorageError Bytes :=
  match c.marshalRecord record with
  | .error text => .error (.crypto s!"failed to marshal storage record: {text}")
  | .ok plaintext =>
    encryptStorageBlob c (deriveStorageItemKey c storageKey recordIKM id (encodeToString id)) nonce plaintext

def encryptStorageManifest (nonce : Bytes) (manifest : ManifestRecord) :
    Except StorageError StorageManifest :=
  match c.marshalManifest manifest with
  | .error text => .error (.crypto s!"failed to marshal manifest record: {text}")
  | .ok plaintext =>
    (encryptStorageBlob c (deriveStorageManifestKey c storageKey manifest.version) nonce plaintext).map
      fun value => ⟨manifest.version, value⟩

def decryptStorageManifest (encrypted : StorageManifest) :
    Except StorageError ManifestRecord := do
  let plaintext ← decryptBytes c (deriveStorageManifestKey c storageKey encrypted.version) encrypted.value
  (c.unmarshalManifest plaintext).mapError .crypto

def decryptStorageItem (item : StorageItem) :
    Except StorageError ρ := do
  let itemKey := deriveStorageItemKey c storageKey recordIKM item.key (encodeToString item.key)
  let plaintext ← decryptBytes c itemKey item.value
  (c.unmarshalRecord plaintext).mapError .crypto

-- The inner loop of buildStorageWrite: the first identifier with the old ID gets the new one.
def swapIdentifier (oldRaw newID : Bytes) : List Identifier → Option (ItemType × List Identifier)
  | [] => none
  | ident :: rest =>
    if ident.raw = oldRaw then some (ident.type, { ident with raw := newID } :: rest)
    else (swapIdentifier oldRaw newID rest).map fun (type, swapped) => (type, ident :: swapped)

structure BuildState (ρ : Type) where
  identifiers : List Identifier
  replaced : List String := []
  insertItem : List StorageItem := []
  deleteKey : List Bytes := []
  newRecords : List (DecryptedStorageRecord ρ) := []

-- The body of the loop over the edits. The draws are numbered by the items inserted so far.
def buildEdit (draws : Nat → Draw) (st : BuildState ρ) (edit : StorageEdit ρ) : Except StorageError (BuildState ρ) :=
  if edit.oldID ∈ st.replaced then .error (.editedTwice edit.oldID)
  else
    match decodeString edit.oldID with
    | none => .error (.invalidStorageID edit.oldID)
    | some oldRaw =>
      let draw := draws st.insertItem.length
      match swapIdentifier oldRaw draw.id st.identifiers with
      | none => .error (.notInManifest edit.oldID)
      | some (type, swapped) =>
        match encryptStorageRecord c storageKey recordIKM draw.id draw.nonce edit.record with
        | .error err => .error err
        | .ok encrypted =>
          .ok { identifiers := swapped
                replaced := st.replaced ++ [edit.oldID]
                insertItem := st.insertItem ++ [⟨draw.id, encrypted⟩]
                deleteKey := st.deleteKey ++ [oldRaw]
                newRecords := st.newRecords ++
                  [⟨type, encodeToString draw.id, edit.record⟩] }

variable (manifest : ManifestRecord)

def buildStorageWrite (sourceDevice : UInt32) (edits : List (StorageEdit ρ)) (draws : Nat → Draw)
    (manifestNonce : Bytes) :
    Except StorageError (BuiltStorageWrite ρ) :=
  if edits.length = 0 then .error .nothingToDo
  else
    match edits.foldlM (buildEdit c storageKey manifest.recordIkm draws)
        { identifiers := manifest.identifiers } with
    | .error err => .error err
    | .ok st =>
      let newManifest := { manifest with
        version := manifest.version + 1
        sourceDevice := sourceDevice
        identifiers := st.identifiers }
      match encryptStorageManifest c storageKey manifestNonce newManifest with
      | .error err => .error err
      | .ok encrypted => .ok ⟨⟨encrypted, st.insertItem, st.deleteKey⟩, st.newRecords⟩

-- A Go map from storage IDs to types.
abbrev IDMap := String → Option ItemType

def IDMap.set (ids : IDMap) (key : String) (type : ItemType) : IDMap :=
  fun k => if k = key then some type else ids k

def IDMap.erase (ids : IDMap) (key : String) : IDMap :=
  fun k => if k = key then none else ids k

def wantedIDs (wanted : List ItemType) : IDMap :=
  manifest.identifiers.foldl (fun ids ident =>
    wanted.foldl (fun ids type =>
      if ident.type = type then IDMap.set ids (encodeToString ident.raw) type else ids) ids)
    fun _ => none

-- The loop of fetchStorageRecords over the items of all chunks.
def decryptStorageItems (storageKey recordIKM : Bytes) :
    IDMap → List StorageItem → List (DecryptedStorageRecord ρ)
  | _, [] => []
  | ids, item :: rest =>
    match ids (encodeToString item.key), decryptStorageItem c storageKey recordIKM item with
    | some type, .ok record =>
      ⟨type, encodeToString item.key, record⟩ ::
        decryptStorageItems storageKey recordIKM (ids.erase (encodeToString item.key)) rest
    | _, _ => decryptStorageItems storageKey recordIKM ids rest

end Crypto

end MautrixSignal.Storage
