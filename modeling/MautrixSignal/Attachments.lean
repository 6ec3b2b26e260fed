import MautrixSignal.Lib.Cbc
import MautrixSignal.Lib.Slice
import MautrixSignal.Receive.Messages

namespace MautrixSignal.Attachments

open Lib

def macLength : Nat := 32
def ivLength : Nat := 16
def aesBlockSize : Nat := 16

-- SHA-256, HMAC, AES and pkcs7. The two directions of the cipher are inverse on blocks. Pad gives full blocks, and
-- Unpad takes off exactly the valid paddings and what Pad has added.
structure Crypto where
  sha256 : Bytes → Bytes
  hmac : (key data : Bytes) → Bytes
  encryptBlock : (key block : Bytes) → Bytes
  decryptBlock : (key block : Bytes) → Bytes
  pad : Bytes → Bytes
  unpad : Bytes → Option Bytes
  length_hmac : ∀ key data, (hmac key data).length = macLength
  length_encryptBlock : ∀ key block, block.length = aesBlockSize → (encryptBlock key block).length = aesBlockSize
  length_decryptBlock : ∀ key block, block.length = aesBlockSize → (decryptBlock key block).length = aesBlockSize
  decryptBlock_encryptBlock : ∀ key block, block.length = aesBlockSize →
    decryptBlock key (encryptBlock key block) = block
  length_pad : ∀ data, (pad data).length % aesBlockSize = 0
  unpad_pad : ∀ data, unpad (pad data) = some data
  unpad_eq_some : ∀ data plaintext, unpad data = some plaintext ↔
    Pkcs7.Padded aesBlockSize data ∧ data.take (Pkcs7.contentLength data) = plaintext

variable (c : Crypto)

inductive DecryptError
  | panic (panic : Panic)
  | invalidDigest (plaintext : Bool)
  | invalidKeyLength (length : Nat)
  | invalidMAC
  | tooShortForIV (length : Nat)
  | notMultipleOfBlockSize (extra : Nat)
  | invalidPadding
  | shorterThanExpected (length size : Nat)
  | failedToReadMAC
  | failedToHashForMAC
  | failedToReadIV
  | padLargerThanBlockSize (pad : UInt8)
deriving DecidableEq

def panicking {α : Type} (x : Except Panic α) : Except DecryptError α := x.mapError .panic

variable (key body : Bytes)

def verifyMAC (mac : Bytes) : Bool := c.hmac key body = mac

def cryptBlocks (iv data : Bytes) : Bytes :=
  Cbc.decryptBlocks aesBlockSize (c.decryptBlock key) (data.length / aesBlockSize) iv data

-- NewCBCDecrypter panics if the IV is not one block, and CryptBlocks if it is not given full blocks.
def decryptCBC (iv data : Bytes) : Except Panic Bytes :=
  if iv.length ≠ aesBlockSize then .error .ivLength
  else if data.length % aesBlockSize ≠ 0 then .error .notFullBlocks
  else .ok (cryptBlocks c key iv data)

def aesDecrypt (ciphertext : Bytes) : Except DecryptError Bytes :=
  if ciphertext.length < ivLength then .error (.tooShortForIV ciphertext.length)
  else if ciphertext.length % aesBlockSize ≠ 0 then
    .error (.notMultipleOfBlockSize (ciphertext.length % aesBlockSize))
  else do
    let iv ← panicking (slice ciphertext 0 ivLength)
    let blocks ← panicking (slice ciphertext ivLength ciphertext.length)
    match c.unpad (← panicking (decryptCBC c key iv blocks)) with
    | none => .error .invalidPadding
    | some plaintext => .ok plaintext

-- The length is an int, so that l is negative for a body that is shorter than its MAC.
def macAndAESDecrypt (key : Bytes) : Except DecryptError Bytes :=
  if key.length ≠ 64 then .error (.invalidKeyLength key.length)
  else do
    let l := (body.length : Int) - macLength
    let macKey ← panicking (slice key macLength key.length)
    let signed ← panicking (slice body 0 l)
    let mac ← panicking (slice body l body.length)
    if verifyMAC c macKey signed mac then aesDecrypt c (← panicking (slice key 0 macLength)) signed
    else .error .invalidMAC

def decryptAttachment (key digest : Bytes) (plaintextDigest : Bool) (size : UInt32) :
    Except DecryptError Bytes :=
  if plaintextDigest = false ∧ c.sha256 body ≠ digest then .error (.invalidDigest false)
  else do
    let decrypted ← macAndAESDecrypt c body key
    if decrypted.length < size.toNat then .error (.shorterThanExpected decrypted.length size.toNat)
    else
      let decrypted ← panicking (slice decrypted 0 size.toNat)
      if plaintextDigest = true ∧ c.sha256 decrypted ≠ digest then .error (.invalidDigest true)
      else .ok decrypted

def bufferSize : Nat := 4096

-- The file while it is decrypted in place: what fileReader may still read, from where, the block
-- that the mode is at, where the next write goes, and the last byte written.
structure Decrypting where
  file : Bytes
  position : Nat
  limit : Nat
  iv : Bytes
  offset : Nat
  pad : UInt8

def Decrypting.chunk (s : Decrypting) : Bytes := (s.file.drop s.position).take (min bufferSize s.limit)

variable (file data : Bytes)

def writeAt (offset : Nat) : Bytes :=
  file.take offset ++ data ++ file.drop (offset + data.length)

def Decrypting.round (s : Decrypting) : Decrypting :=
  let decrypted := cryptBlocks c key s.iv s.chunk
  { file := writeAt s.file decrypted s.offset
    position := s.position + s.chunk.length
    limit := s.limit - s.chunk.length
    iv := Cbc.chained aesBlockSize (s.chunk.length / aesBlockSize) s.iv s.chunk
    offset := s.offset + s.chunk.length
    pad := Pkcs7.lastByte decrypted }

def decryptLoop (key : Bytes) (s : Decrypting) : Decrypting :=
  if _h : s.chunk = [] then s else decryptLoop key (s.round c key)
termination_by s.limit
decreasing_by
  have hchunk := List.length_pos_iff.mpr _h
  have hle : s.chunk.length ≤ s.limit := by
    rw [Decrypting.chunk, List.length_take]
    omega
  simp only [Decrypting.round]
  omega

def aesDecryptFile (downloadedSize : Nat) : Except DecryptError (Bytes × Nat) :=
  if downloadedSize % aesBlockSize ≠ 0 then .error (.notMultipleOfBlockSize (downloadedSize % aesBlockSize))
  else if (file.take (min ivLength downloadedSize)).length ≠ ivLength then .error .failedToReadIV
  else
    let s := decryptLoop c key {
      file
      position := ivLength
      limit := downloadedSize - ivLength
      iv := file.take ivLength
      offset := 0
      pad := 0 }
    if aesBlockSize < s.pad.toNat then .error (.padLargerThanBlockSize s.pad)
    else .ok (s.file, downloadedSize - s.pad.toNat)

-- A file is filled up with zeros if it is truncated to more than it has.
def truncate (size : Nat) : Bytes := file.take size ++ List.replicate (size - file.length) 0

-- What the file holds in the end. The file starts with the downloaded bytes and no access to it fails.
def decryptAttachmentFile (downloadedSize : Nat) (key digest : Bytes) (plaintextDigest : Bool) (size : UInt32) :
    Except DecryptError Bytes :=
  if plaintextDigest = false ∧ c.sha256 file ≠ digest then .error (.invalidDigest false)
  -- A negative offset, or less than a MAC behind it.
  else if downloadedSize < macLength ∨ file.length < downloadedSize then .error .failedToReadMAC
  else if key.length < macLength then .error (.panic .sliceBounds)
  else
    let l := downloadedSize - macLength
    let mac := (file.drop l).take macLength
    if verifyMAC c (key.drop macLength) (file.take l) mac then do
      let (file, decryptedSize) ← aesDecryptFile c (key.take macLength) file l
      if decryptedSize < size.toNat then .error (.shorterThanExpected decryptedSize size.toNat)
      else if plaintextDigest = true ∧ c.sha256 (truncate file size.toNat) ≠ digest then
        .error (.invalidDigest true)
      else .ok (truncate file size.toNat)
    else .error .invalidMAC

-- A slice and what lies behind it in its array.
structure Slice where
  data : Bytes
  spare : Bytes

def Slice.capacity (s : Slice) : Nat := s.data.length + s.spare.length

-- The slice grows within its array, where the bytes behind it are overwritten one by one, or is copied.
def extend (data : Slice) (paddedLen : Nat) : Bytes :=
  if paddedLen ≤ data.capacity then
    (List.range' data.data.length (paddedLen - data.data.length)).foldl (fun bytes i => bytes.set i 0)
      ((data.data ++ data.spare).take paddedLen)
  else data.data.take paddedLen ++ (List.replicate paddedLen 0).drop data.data.length

structure Random where
  keys : Bytes
  iv : Bytes
  length_keys : keys.length = 64
  length_iv : iv.length = ivLength

def aesEncrypt (iv plaintext : Bytes) : Bytes :=
  let padded := c.pad plaintext
  iv ++ Cbc.encryptBlocks aesBlockSize (c.encryptBlock key) (padded.length / aesBlockSize) iv padded

def appendMAC : Bytes := body ++ c.hmac key body

def macAndAESEncrypt (keys iv plaintext : Bytes) : Bytes :=
  appendMAC c (keys.drop 32) (aesEncrypt c (keys.take 32) iv plaintext)

structure UploadAttributes where
  cdn : UInt32
  key : Bytes

-- How the server takes an upload. The headers and the location are only read by the upload itself.
structure UploadServer where
  sendRequest : Option Bytes
  decodeWSResponseBody : Bytes → Option UploadAttributes
  uploadAttachmentTUS : UploadAttributes → Bytes → Bool
  uploadAttachmentLegacy : UploadAttributes → Bytes → Bool

def UploadServer.upload (server : UploadServer) (attributes : UploadAttributes) (data : Bytes) : Bool :=
  if attributes.cdn = 3 then server.uploadAttachmentTUS attributes data
  else server.uploadAttachmentLegacy attributes data

inductive UploadError
  | paddedLengthLessThanBodyLength
  | failedToRequestAttributes
  | failedToDecodeAttributes
  | failedToUpload

def uploadAttachment (server : UploadServer) (random : Random) (paddedLen : Nat) (body : Slice) :
    Except UploadError (Receive.AttachmentPointer × Bytes) :=
  let plaintextLength := UInt32.ofNat body.data.length
  if paddedLen < body.data.length then .error .paddedLengthLessThanBodyLength
  else
    let encryptedWithMAC := macAndAESEncrypt c random.keys random.iv (extend body paddedLen)
    match server.sendRequest with
    | none => .error .failedToRequestAttributes
    | some resp =>
      match server.decodeWSResponseBody resp with
      | none => .error .failedToDecodeAttributes
      | some uploadAttributes =>
        if server.upload uploadAttributes encryptedWithMAC then
          .ok ({
            cdnKey := uploadAttributes.key
            key := random.keys
            digest := some (c.sha256 encryptedWithMAC)
            size := plaintextLength
            cdnNumber := uploadAttributes.cdn }, encryptedWithMAC)
        else .error .failedToUpload

end MautrixSignal.Attachments
