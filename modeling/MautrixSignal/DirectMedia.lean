import MautrixSignal.Lib.Reader
import MautrixSignal.Receive.Contacts
import Mathlib.Data.UInt

namespace MautrixSignal.DirectMedia

open Lib Receive List

-- The strings and slices of the source are byte strings here, and an absent slice is an empty one.
structure DirectMediaAttachment where
  cdnID : UInt64
  cdnKey : Bytes
  cdnNumber : UInt32
  key : Bytes
  plaintextDigest : Bool
  digest : Bytes
  size : UInt32

structure GroupID where
  bytes : Bytes
  length_eq : bytes.length = 32

structure DirectMediaGroupAvatar where
  userID : UUID
  groupID : GroupID
  groupAvatarPath : Bytes

structure DirectMediaProfileAvatar where
  userID : UUID
  contactID : UUID
  profileAvatarPath : Bytes

structure DirectMediaSticker where
  packID : Bytes
  packKey : Bytes
  stickerID : UInt32

inductive DirectMediaInfo
  | attachment (info : DirectMediaAttachment)
  | groupAvatar (info : DirectMediaGroupAvatar)
  | profileAvatar (info : DirectMediaProfileAvatar)
  | sticker (info : DirectMediaSticker)

def directMediaTypeAttachment : UInt8 := 0
def directMediaTypeGroupAvatar : UInt8 := 1
def directMediaTypeProfileAvatar : UInt8 := 2
def directMediaTypePlaintextDigestAttachment : UInt8 := 3
def directMediaTypeSticker : UInt8 := 4

def packIDLen : Nat := 16
def packKeyLen : Nat := 32
def directMediaStickerLen : Nat := 1 + packIDLen + packKeyLen + 4

-- A slice is never longer than the largest int.
def maxInt : Nat := 2 ^ 63 - 1

-- binary.AppendUvarint, where the first argument is the number of bytes that may still follow.
def appendUvarintFrom : Nat → Nat → Bytes
  | 0, x => [UInt8.ofNat x]
  | more + 1, x =>
    if x < 0x80 then [UInt8.ofNat x] else UInt8.ofNat (x % 0x80 + 0x80) :: appendUvarintFrom more (x / 0x80)

def writeUvarint (i : UInt64) : Bytes := appendUvarintFrom (maxVarintLen64 - 1) i.toNat

def writeByteSlice (b : Bytes) : Bytes := writeUvarint (UInt64.ofNat b.length) ++ b

def putUint32 (v : UInt32) : Bytes :=
  [(v >>> 24).toUInt8, (v >>> 16).toUInt8, (v >>> 8).toUInt8, v.toUInt8]

def DirectMediaAttachment.buffer (m : DirectMediaAttachment) : Bytes :=
  [if m.plaintextDigest then directMediaTypePlaintextDigestAttachment else directMediaTypeAttachment] ++
    writeUvarint m.cdnID ++ writeByteSlice m.cdnKey ++ writeUvarint m.cdnNumber.toUInt64 ++
    writeByteSlice m.key ++ writeByteSlice m.digest ++ writeUvarint m.size.toUInt64

def DirectMediaGroupAvatar.buffer (m : DirectMediaGroupAvatar) : Bytes :=
  [directMediaTypeGroupAvatar] ++ m.userID.bytes ++ m.groupID.bytes ++ writeByteSlice m.groupAvatarPath

def DirectMediaProfileAvatar.buffer (m : DirectMediaProfileAvatar) : Bytes :=
  [directMediaTypeProfileAvatar] ++ m.userID.bytes ++ m.contactID.bytes ++ writeByteSlice m.profileAvatarPath

def DirectMediaSticker.buffer (m : DirectMediaSticker) : Bytes :=
  [directMediaTypeSticker] ++ m.packID ++ m.packKey ++ putUint32 m.stickerID

def DirectMediaInfo.buffer : DirectMediaInfo → Bytes
  | .attachment m => m.buffer
  | .groupAvatar m => m.buffer
  | .profileAvatar m => m.buffer
  | .sticker m => m.buffer

-- A bytes.Buffer panics with ErrTooLarge.
inductive WriteError
  | invalidPackIDLength (length : Nat)
  | invalidPackKeyLength (length : Nat)
  | tooLarge

def checkLength (buffer : Bytes) : Except WriteError Bytes :=
  if maxInt < buffer.length then .error .tooLarge else .ok buffer

def DirectMediaInfo.asMediaID : DirectMediaInfo → Except WriteError Bytes
  | .attachment m => checkLength m.buffer
  | .groupAvatar m => checkLength m.buffer
  | .profileAvatar m => checkLength m.buffer
  | .sticker m =>
    if m.packID.length ≠ packIDLen then .error (.invalidPackIDLength m.packID.length)
    else if m.packKey.length ≠ packKeyLen then .error (.invalidPackKeyLength m.packKey.length)
    else .ok m.buffer

inductive ReadError
  | readUvarint
  | readingUvarintFailed
  | largerThanExpected (length maxLength : Nat)
  | unexpectedEOF

-- The last one is a panic of make.
inductive ParseError
  | emptyMediaID
  | failedToRead (field : String) (cause : ReadError)
  | invalidStickerLength (length : Nat)
  | invalidType (type : UInt8)
  | makeSliceLength

def readFull (length : Nat) (input : Bytes) : Option (Bytes × Bytes) :=
  if length ≤ input.length then some (input.take length, input.drop length) else none

variable (field : String)

def readUint : Reader UInt8 ParseError Nat :=
  readWith readUvarint (.failedToRead field .readUvarint)

def make (length : Nat) : Reader UInt8 ParseError PUnit := do
  makeBuffer length
  if maxInt < length then throw .makeSliceLength else pure ⟨⟩

-- int(length) is negative above maxInt.
def readByteSlice (maxLength : Nat) (field : String) : Reader UInt8 ParseError Bytes := do
  let length ← readWith readUvarint (.failedToRead field .readingUvarintFailed)
  if length ≤ maxInt ∧ maxLength < length then
    throw (.failedToRead field (.largerThanExpected length maxLength))
  else if length = 0 then pure []
  else
    make length
    readWith (readFull length) (.failedToRead field .unexpectedEOF)

def readUUID : Reader UInt8 ParseError UUID :=
  readWith (fun input =>
    if h : (input.take 16).length = 16 then some (⟨input.take 16, h⟩, input.drop 16) else none)
    (.failedToRead field .unexpectedEOF)

def readGroupID : Reader UInt8 ParseError GroupID :=
  readWith (fun input =>
    if h : (input.take 32).length = 32 then some (⟨input.take 32, h⟩, input.drop 32) else none)
    (.failedToRead field .unexpectedEOF)

variable (mediaIDLen : Nat)

-- An unreadable size is reported as a cdn id too.
def readAttachment (plaintextDigest : Bool) :
    Reader UInt8 ParseError DirectMediaInfo := do
  let cdnID ← readUint "cdn id"
  let cdnKey ← readByteSlice mediaIDLen "cdn key"
  let cdnNumber ← readUint "cdn number"
  let key ← readByteSlice mediaIDLen "key"
  let digest ← readByteSlice mediaIDLen "digest"
  let size ← readUint "cdn id"
  pure (.attachment {
    cdnID := UInt64.ofNat cdnID
    cdnKey
    cdnNumber := UInt32.ofNat cdnNumber
    key
    plaintextDigest
    digest
    size := UInt32.ofNat size })

def readGroupAvatar : Reader UInt8 ParseError DirectMediaInfo := do
  let userID ← readUUID "user id"
  let groupID ← readGroupID "group id"
  let groupAvatarPath ← readByteSlice mediaIDLen "group avatar path"
  pure (.groupAvatar { userID, groupID, groupAvatarPath })

def readProfileAvatar : Reader UInt8 ParseError DirectMediaInfo := do
  let userID ← readUUID "user id"
  let contactID ← readUUID "contact id"
  let profileAvatarPath ← readByteSlice mediaIDLen "profile avatar path"
  pure (.profileAvatar { userID, contactID, profileAvatarPath })

def uint32 (b : Bytes) : UInt32 := (b.take 4).foldl (fun v byte => (v <<< 8) ||| byte.toUInt32) 0

variable (mediaID : Bytes)

def parseSticker : Reader UInt8 ParseError DirectMediaInfo :=
  if mediaID.length ≠ directMediaStickerLen then throw (.invalidStickerLength mediaID.length)
  else pure (.sticker {
    packID := (mediaID.drop 1).take packIDLen
    packKey := (mediaID.drop (1 + packIDLen)).take packKeyLen
    stickerID := uint32 (mediaID.drop (1 + packIDLen + packKeyLen)) })

def readMediaID : Reader UInt8 ParseError DirectMediaInfo :=
  match mediaID with
  | [] => throw .emptyMediaID
  | type :: _ =>
    if type = directMediaTypeAttachment ∨ type = directMediaTypePlaintextDigestAttachment then
      readAttachment mediaID.length (type = directMediaTypePlaintextDigestAttachment)
    else if type = directMediaTypeGroupAvatar then readGroupAvatar mediaID.length
    else if type = directMediaTypeProfileAvatar then readProfileAvatar mediaID.length
    else if type = directMediaTypeSticker then parseSticker mediaID
    else throw (.invalidType type)

def parseDirectMediaInfo : Except ParseError DirectMediaInfo :=
  match readMediaID mediaID ⟨mediaID.tail, []⟩ with
  | .ok info _ => .ok info
  | .error error _ => .error error

-- The lengths that make is called with.
def allocations : List Nat := (finalState (readMediaID mediaID) ⟨mediaID.tail, []⟩).made

variable (rest : Bytes)

theorem readUvarintFrom_last {i acc x : Nat} (hi : i < maxVarintLen64) (hx : x < 0x80)
    (hlast : i = maxVarintLen64 - 1 → x ≤ 1) :
    readUvarintFrom i acc (UInt8.ofNat x :: rest) = some (acc + x * 2 ^ (7 * i), rest) := by
  have hval : (UInt8.ofNat x).toNat = x := by
    rw [UInt8.toNat_ofNat']
    omega
  have hsmall : UInt8.ofNat x < 0x80 := by
    rw [UInt8.lt_iff_toNat_lt, hval]
    exact hx
  have hfits : ¬(i = maxVarintLen64 - 1 ∧ 1 < UInt8.ofNat x) := by
    rintro ⟨hend, hlarge⟩
    rw [UInt8.lt_iff_toNat_lt, hval] at hlarge
    have hbit := hlast hend
    exact absurd hlarge (Nat.not_lt.mpr hbit)
  rw [readUvarintFrom, if_neg (Nat.not_le.mpr hi), if_pos hsmall, if_neg hfits, hval]

theorem readUvarintFrom_continued {i acc x : Nat} (hi : i < maxVarintLen64) :
    readUvarintFrom i acc (UInt8.ofNat (x % 0x80 + 0x80) :: rest) =
      readUvarintFrom (i + 1) (acc + x % 0x80 * 2 ^ (7 * i)) rest := by
  have hval : (UInt8.ofNat (x % 0x80 + 0x80)).toNat = x % 0x80 + 0x80 := by
    rw [UInt8.toNat_ofNat']
    omega
  have hlarge : ¬UInt8.ofNat (x % 0x80 + 0x80) < 0x80 := by
    rw [UInt8.lt_iff_toNat_lt, hval]
    exact Nat.not_lt.mpr (Nat.le_add_left _ _)
  rw [readUvarintFrom, if_neg (Nat.not_le.mpr hi), if_neg hlarge, hval, Nat.add_sub_cancel]

theorem uvarint_split (acc x i : Nat) :
    acc + x % 0x80 * 2 ^ (7 * i) + x / 0x80 * 2 ^ (7 * (i + 1)) = acc + x * 2 ^ (7 * i) := by
  have hpow : 2 ^ (7 * (i + 1)) = 0x80 * 2 ^ (7 * i) := by
    rw [Nat.mul_succ, Nat.pow_add, Nat.mul_comm]
  calc
    acc + x % 0x80 * 2 ^ (7 * i) + x / 0x80 * 2 ^ (7 * (i + 1)) =
        acc + (x % 0x80 + 0x80 * (x / 0x80)) * 2 ^ (7 * i) := by
      rw [hpow, Nat.add_mul, Nat.add_assoc, ← Nat.mul_assoc, Nat.mul_comm (x / 0x80)]
    _ = acc + x * 2 ^ (7 * i) := by rw [Nat.mod_add_div]

-- After i bytes at most 64 - 7 * i bits are left to be written.
theorem readUvarintFrom_append {more i x : Nat} (acc : Nat) (rest : Bytes)
    (hi : i + more = maxVarintLen64 - 1) (hx : x < 2 ^ (64 - 7 * i)) :
    readUvarintFrom i acc (appendUvarintFrom more x ++ rest) = some (acc + x * 2 ^ (7 * i), rest) := by
  induction more generalizing i acc x with
  | zero =>
    obtain rfl : i = 9 := hi
    exact readUvarintFrom_last rest (by decide) (by omega) (fun _ => by omega)
  | succ more ih =>
    have hbound : i + (more + 1) = 9 := hi
    have hlt : i < maxVarintLen64 := by
      omega
    rw [appendUvarintFrom]
    by_cases hsmall : x < 0x80
    · rw [if_pos hsmall]
      refine readUvarintFrom_last rest hlt hsmall (fun hend => ?_)
      omega
    · have hrest : x / 0x80 < 2 ^ (64 - 7 * (i + 1)) := by
        rw [Nat.div_lt_iff_lt_mul (by decide)]
        have hpow : 2 ^ (64 - 7 * i) = 2 ^ (64 - 7 * (i + 1)) * 0x80 := by
          rw [show 64 - 7 * i = 64 - 7 * (i + 1) + 7 by omega, Nat.pow_add]
        rwa [← hpow]
      rw [if_neg hsmall, cons_append, readUvarintFrom_continued _ hlt,
        ih _ (by rw [maxVarintLen64]; omega) hrest, uvarint_split]

theorem readUvarint_writeUvarint (i : UInt64) (rest : Bytes) :
    readUvarint (writeUvarint i ++ rest) = some (i.toNat, rest) := by
  have h : readUvarintFrom 0 0 (appendUvarintFrom (maxVarintLen64 - 1) i.toNat ++ rest) =
      some (0 + i.toNat * 2 ^ (7 * 0), rest) := readUvarintFrom_append 0 rest rfl i.toNat_lt
  rwa [Nat.zero_add, Nat.mul_zero, Nat.pow_zero, Nat.mul_one] at h

theorem reads_writeUvarint (i : UInt64) (error : ParseError) :
    Reads (readWith readUvarint error) (writeUvarint i) i.toNat :=
  Reads.readWith (readUvarint_writeUvarint i)

theorem readFull_append (b rest : Bytes) : readFull b.length (b ++ rest) = some (b, rest) := by
  have hle : b.length ≤ (b ++ rest).length := by
    rw [length_append]
    exact Nat.le_add_right _ _
  rw [readFull, if_pos hle, take_left, drop_left]

theorem reads_make {length : Nat} (h : length ≤ maxInt) : Reads (make length) [] ⟨⟩ := by
  change Reads (make length) ([] ++ []) ⟨⟩
  refine (Reads.makeBuffer length).bind ?_
  rw [if_neg (Nat.not_lt.mpr h)]
  exact .pure _

theorem reads_writeByteSlice {b : Bytes} {maxLength : Nat} (hmax : b.length ≤ maxLength) (hint : b.length ≤ maxInt) :
    Reads (readByteSlice maxLength field) (writeByteSlice b) b := by
  have hlen : (UInt64.ofNat b.length).toNat = b.length := by
    exact Nat.mod_eq_of_lt (Nat.lt_of_le_of_lt hint (by decide))
  refine (reads_writeUvarint (UInt64.ofNat b.length) _).bind ?_
  rw [hlen, if_neg fun h => Nat.not_lt.mpr hmax h.2]
  split
  · rename_i hzero
    rw [length_eq_zero_iff.mp hzero]
    exact .pure []
  · exact (reads_make hint).bind (Reads.readWith (readFull_append b))

theorem reads_readUUID (id : UUID) (field : String) : Reads (readUUID field) id.bytes id := by
  refine Reads.readWith (fun rest => ?_)
  simp [id.length_eq]

theorem reads_readGroupID (id : GroupID) (field : String) : Reads (readGroupID field) id.bytes id := by
  refine Reads.readWith (fun rest => ?_)
  simp [id.length_eq]

theorem length_le_writeByteSlice (b : Bytes) : b.length ≤ (writeByteSlice b).length := by
  rw [writeByteSlice, length_append]
  exact Nat.le_add_left _ _

theorem toNat_shift_or (v : UInt32) (byte : UInt8) (hv : v.toNat < 2 ^ 24) :
    (v <<< 8 ||| byte.toUInt32).toNat = v.toNat * 2 ^ 8 + byte.toNat := by
  have hbyte := byte.toNat_lt
  have hor := Nat.two_pow_add_eq_or_of_lt hbyte v.toNat
  rw [UInt32.toNat_or, UInt32.toNat_shiftLeft, UInt8.toNat_toUInt32, Nat.shiftLeft_eq]
  simp only [UInt32.reduceToNat, Nat.reduceMod]
  rw [Nat.mod_eq_of_lt (by omega), Nat.mul_comm, ← hor, Nat.mul_comm]

theorem toNat_byte (v shift : UInt32) (hshift : shift.toNat < 32) :
    (v >>> shift).toUInt8.toNat = v.toNat / 2 ^ shift.toNat % 2 ^ 8 := by
  rw [UInt32.toNat_toUInt8, UInt32.toNat_shiftRight, Nat.mod_eq_of_lt hshift, Nat.shiftRight_eq_div_pow]

theorem uint32_putUint32 (v : UInt32) : uint32 (putUint32 v) = v := by
  have hlt := v.toNat_lt
  have h24 : (v >>> 24).toUInt8.toNat = v.toNat / 2 ^ 24 % 2 ^ 8 := toNat_byte v 24 (by decide)
  have h16 : (v >>> 16).toUInt8.toNat = v.toNat / 2 ^ 16 % 2 ^ 8 := toNat_byte v 16 (by decide)
  have h8 : (v >>> 8).toUInt8.toNat = v.toNat / 2 ^ 8 % 2 ^ 8 := toNat_byte v 8 (by decide)
  have h0 := UInt32.toNat_toUInt8 v
  have hzero : (0 : UInt32).toNat = 0 := rfl
  apply UInt32.toNat_inj.mp
  simp only [uint32, putUint32, take_succ_cons, take_zero, foldl_cons, foldl_nil]
  -- Each byte moves the ones before it up, and four of them fit.
  have h1 := toNat_shift_or 0 (v >>> 24).toUInt8 (by decide)
  have h2 := toNat_shift_or ((0 : UInt32) <<< 8 ||| (v >>> 24).toUInt8.toUInt32) (v >>> 16).toUInt8 (by omega)
  have h3 := toNat_shift_or
    (((0 : UInt32) <<< 8 ||| (v >>> 24).toUInt8.toUInt32) <<< 8 ||| (v >>> 16).toUInt8.toUInt32)
    (v >>> 8).toUInt8 (by omega)
  rw [toNat_shift_or _ _ (by omega), h3, h2, h1, h24, h16, h8, h0]
  omega

def DirectMediaInfo.WellSized : DirectMediaInfo → Prop
  | .sticker m => m.packID.length = packIDLen ∧ m.packKey.length = packKeyLen
  | _ => True

instance : DecidablePred DirectMediaInfo.WellSized
  | .attachment _ => instDecidableTrue
  | .groupAvatar _ => instDecidableTrue
  | .profileAvatar _ => instDecidableTrue
  | .sticker m => inferInstanceAs (Decidable (m.packID.length = packIDLen ∧ m.packKey.length = packKeyLen))

theorem parse_of_reads {mediaID : Bytes} {info : DirectMediaInfo}
    (h : Reads (readMediaID mediaID) mediaID.tail info) : parseDirectMediaInfo mediaID = .ok info := by
  obtain ⟨made, hret⟩ := h.returns
  rw [parseDirectMediaInfo, hret]

theorem parse_attachment (m : DirectMediaAttachment) (hlen : m.buffer.length ≤ maxInt) :
    parseDirectMediaInfo m.buffer = .ok (.attachment m) := by
  have hcdnKey := length_le_writeByteSlice m.cdnKey
  have hkey := length_le_writeByteSlice m.key
  have hdig := length_le_writeByteSlice m.digest
  have hfits : m.cdnKey.length ≤ m.buffer.length ∧ m.key.length ≤ m.buffer.length ∧
      m.digest.length ≤ m.buffer.length := by
    simp only [DirectMediaAttachment.buffer, length_append]
    omega
  obtain ⟨hfitsCdnKey, hfitsKey, hfitsDigest⟩ := hfits
  have hreads : Reads (readAttachment m.buffer.length m.plaintextDigest)
      (writeUvarint m.cdnID ++ (writeByteSlice m.cdnKey ++ (writeUvarint m.cdnNumber.toUInt64 ++
        (writeByteSlice m.key ++ (writeByteSlice m.digest ++ writeUvarint m.size.toUInt64))))) (.attachment m) := by
    refine (reads_writeUvarint _ _).bind ?_
    refine (reads_writeByteSlice _ hfitsCdnKey (Nat.le_trans hfitsCdnKey hlen)).bind ?_
    refine (reads_writeUvarint _ _).bind ?_
    refine (reads_writeByteSlice _ hfitsKey (Nat.le_trans hfitsKey hlen)).bind ?_
    refine (reads_writeByteSlice _ hfitsDigest (Nat.le_trans hfitsDigest hlen)).bind ?_
    exact (reads_writeUvarint _ _).map (by simp)
  have hbuf : m.buffer =
      (if m.plaintextDigest then directMediaTypePlaintextDigestAttachment else directMediaTypeAttachment) ::
      (writeUvarint m.cdnID ++ (writeByteSlice m.cdnKey ++ (writeUvarint m.cdnNumber.toUInt64 ++
        (writeByteSlice m.key ++ (writeByteSlice m.digest ++ writeUvarint m.size.toUInt64))))) := by
    simp [DirectMediaAttachment.buffer]
  rw [hbuf] at hreads ⊢
  cases hdigestKind : m.plaintextDigest with
  | false | true =>
    rw [hdigestKind] at hreads
    exact parse_of_reads hreads

theorem parse_groupAvatar (m : DirectMediaGroupAvatar) (hlen : m.buffer.length ≤ maxInt) :
    parseDirectMediaInfo m.buffer = .ok (.groupAvatar m) := by
  have hpath := length_le_writeByteSlice m.groupAvatarPath
  have hfits : m.groupAvatarPath.length ≤ m.buffer.length := by
    simp only [DirectMediaGroupAvatar.buffer, length_append]
    omega
  have hreads : Reads (readGroupAvatar m.buffer.length)
      (m.userID.bytes ++ (m.groupID.bytes ++ writeByteSlice m.groupAvatarPath)) (.groupAvatar m) := by
    refine (reads_readUUID _ _).bind ?_
    refine (reads_readGroupID _ _).bind ?_
    exact (reads_writeByteSlice _ hfits (Nat.le_trans hfits hlen)).map rfl
  have hbuf : m.buffer = directMediaTypeGroupAvatar ::
      (m.userID.bytes ++ (m.groupID.bytes ++ writeByteSlice m.groupAvatarPath)) := by
    simp [DirectMediaGroupAvatar.buffer]
  rw [hbuf] at hreads ⊢
  exact parse_of_reads hreads

theorem parse_profileAvatar (m : DirectMediaProfileAvatar) (hlen : m.buffer.length ≤ maxInt) :
    parseDirectMediaInfo m.buffer = .ok (.profileAvatar m) := by
  have hpath := length_le_writeByteSlice m.profileAvatarPath
  have hfits : m.profileAvatarPath.length ≤ m.buffer.length := by
    simp only [DirectMediaProfileAvatar.buffer, length_append]
    omega
  have hreads : Reads (readProfileAvatar m.buffer.length)
      (m.userID.bytes ++ (m.contactID.bytes ++ writeByteSlice m.profileAvatarPath)) (.profileAvatar m) := by
    refine (reads_readUUID _ _).bind ?_
    refine (reads_readUUID _ _).bind ?_
    exact (reads_writeByteSlice _ hfits (Nat.le_trans hfits hlen)).map rfl
  have hbuf : m.buffer = directMediaTypeProfileAvatar ::
      (m.userID.bytes ++ (m.contactID.bytes ++ writeByteSlice m.profileAvatarPath)) := by
    simp [DirectMediaProfileAvatar.buffer]
  rw [hbuf] at hreads ⊢
  exact parse_of_reads hreads

theorem length_sticker {m : DirectMediaSticker} (hpackID : m.packID.length = packIDLen)
    (hpackKey : m.packKey.length = packKeyLen) : m.buffer.length = directMediaStickerLen := by
  simp only [DirectMediaSticker.buffer, length_append, hpackID, hpackKey]
  rfl

theorem parse_sticker (m : DirectMediaSticker) (hpackID : m.packID.length = packIDLen)
    (hpackKey : m.packKey.length = packKeyLen) : parseDirectMediaInfo m.buffer = .ok (.sticker m) := by
  have hlen := length_sticker hpackID hpackKey
  have hbuf : m.buffer = directMediaTypeSticker :: (m.packID ++ (m.packKey ++ putUint32 m.stickerID)) := by
    simp [DirectMediaSticker.buffer]
  have hafterID : m.buffer.drop (1 + packIDLen) = m.packKey ++ putUint32 m.stickerID := by
    rw [hbuf, Nat.add_comm, drop_succ_cons, ← hpackID, drop_left]
  have hafterKey : m.buffer.drop (1 + packIDLen + packKeyLen) = putUint32 m.stickerID := by
    rw [← drop_drop, hafterID, ← hpackKey, drop_left]
  have hparse : readMediaID m.buffer = parseSticker m.buffer := by
    rfl
  rw [parseDirectMediaInfo, hparse, parseSticker, if_neg (not_not.mpr hlen), hafterID, hafterKey,
    uint32_putUint32, ← hpackKey, take_left, hbuf, drop_succ_cons, drop_zero, ← hpackID,
    take_left]
  rfl

theorem parse_buffer (m : DirectMediaInfo) (hlen : m.buffer.length ≤ maxInt) (hsized : m.WellSized) :
    parseDirectMediaInfo m.buffer = .ok m := by
  cases m with
  | attachment m => exact parse_attachment m hlen
  | groupAvatar m => exact parse_groupAvatar m hlen
  | profileAvatar m => exact parse_profileAvatar m hlen
  | sticker m => exact parse_sticker m hsized.1 hsized.2

theorem checkLength_ok {buffer id : Bytes} : checkLength buffer = .ok id ↔ buffer.length ≤ maxInt ∧ buffer = id := by
  unfold checkLength
  split
  · rename_i hlarge
    exact ⟨fun h => (by cases h), fun h => absurd h.1 (Nat.not_le.mpr hlarge)⟩
  · rename_i hsmall
    exact ⟨fun h => ⟨Nat.not_lt.mp hsmall, Except.ok.inj h⟩, fun h => congrArg _ h.2⟩

theorem asMediaID_ok {m : DirectMediaInfo} {id : Bytes} :
    m.asMediaID = .ok id ↔ m.buffer.length ≤ maxInt ∧ m.WellSized ∧ m.buffer = id := by
  cases m with
  | attachment m | groupAvatar m | profileAvatar m =>
    exact checkLength_ok.trans (by simp only [DirectMediaInfo.WellSized, true_and]; rfl)
  | sticker m =>
    simp only [DirectMediaInfo.asMediaID, DirectMediaInfo.WellSized, DirectMediaInfo.buffer]
    by_cases hpackID : m.packID.length = packIDLen
    · by_cases hpackKey : m.packKey.length = packKeyLen
      · have hlen : m.buffer.length ≤ maxInt := by
          rw [length_sticker hpackID hpackKey]
          decide
        simp [hpackID, hpackKey, hlen]
      · simp [hpackID, hpackKey]
    · simp [hpackID]

-- Media IDs are parsed back, so no two infos share one.
theorem parseDirectMediaInfo_asMediaID (m : DirectMediaInfo) (hlen : m.buffer.length ≤ maxInt)
    (hsized : m.WellSized) :
    ∃ id, m.asMediaID = .ok id ∧ parseDirectMediaInfo id = .ok m ∧
      ∀ other : DirectMediaInfo, other.asMediaID = .ok id → other = m := by
  have hparse := parse_buffer m hlen hsized
  refine ⟨m.buffer, asMediaID_ok.mpr ⟨hlen, hsized, rfl⟩, hparse, fun other hother => ?_⟩
  obtain ⟨hlen', hsized', hbuf⟩ := asMediaID_ok.mp hother
  have hparse' := parse_buffer other hlen' hsized'
  rw [hbuf, hparse] at hparse'
  exact (Except.ok.inj hparse').symm

def samplePlaintextAttachment : DirectMediaInfo :=
  .attachment {
    cdnID := 2 ^ 63 + 300, cdnKey := [104, 105], cdnNumber := 3, key := List.replicate 64 9
    plaintextDigest := true, digest := List.replicate 32 5, size := 70000 }

def sampleSticker : DirectMediaInfo :=
  .sticker { packID := List.replicate 16 1, packKey := List.replicate 32 2, stickerID := 0x01020304 }

theorem parseDirectMediaInfo_asMediaID_samples :
    (∃ id, samplePlaintextAttachment.asMediaID = .ok id ∧
      parseDirectMediaInfo id = .ok samplePlaintextAttachment ∧
      ∀ other : DirectMediaInfo, other.asMediaID = .ok id → other = samplePlaintextAttachment) ∧
    ∃ id, sampleSticker.asMediaID = .ok id ∧ parseDirectMediaInfo id = .ok sampleSticker ∧
      ∀ other : DirectMediaInfo, other.asMediaID = .ok id → other = sampleSticker :=
  ⟨parseDirectMediaInfo_asMediaID samplePlaintextAttachment (by decide +kernel) (by decide),
    parseDirectMediaInfo_asMediaID sampleSticker (by decide +kernel) (by decide)⟩

-- The parts that a media ID is read in: a number, so many bytes, or a slice behind its length.
inductive Part
  | uvarint
  | block (length : Nat)
  | slice

def Part.skip (buf : Bytes) : Part → Option Bytes
  | uvarint => (readUvarint buf).map Prod.snd
  | block length => (readFull length buf).map Prod.snd
  | slice => do
    let (length, rest) ← readUvarint buf
    if mediaIDLen < length then none else (readFull length rest).map Prod.snd

def Part.length? (buf : Bytes) : Part → Option Nat
  | slice => (readUvarint buf).map Prod.fst
  | _ => none

def lengthsFrom (mediaIDLen : Nat) : List Part → Bytes → List Nat
  | [], _ => []
  | part :: parts, buf =>
    (part.length? buf).toList ++ ((part.skip mediaIDLen buf).map (lengthsFrom mediaIDLen parts)).getD []

def partsOf (type : UInt8) : List Part :=
  if type = directMediaTypeAttachment ∨ type = directMediaTypePlaintextDigestAttachment then
    [.uvarint, .slice, .uvarint, .slice, .slice, .uvarint]
  else if type = directMediaTypeGroupAvatar then [.block 16, .block 32, .slice]
  else if type = directMediaTypeProfileAvatar then [.block 16, .block 16, .slice]
  else []

def sliceLengths : Bytes → List Nat
  | [] => []
  | type :: buf => lengthsFrom (buf.length + 1) (partsOf type) buf

-- The reader panics exactly at a length that does not fit an int, and otherwise makes no buffer that is longer than
-- the media ID.
structure Follows {α : Type} (mediaIDLen : Nat) (m : Reader UInt8 ParseError α) (parts : List Part)
    (s : Input UInt8) : Prop where
  panics : (∃ t, m s = .error .makeSliceLength t) ↔ ∃ length ∈ lengthsFrom mediaIDLen parts s.rest, maxInt < length
  makes : (∀ length ∈ lengthsFrom mediaIDLen parts s.rest, length ≤ maxInt) →
    ∀ length ∈ (finalState m s).made, length ∈ s.made ∨ length ≤ mediaIDLen

section Parts

variable {α β : Type} {mediaIDLen : Nat} {parts : List Part} {s t : Input UInt8}

theorem Follows.of_error {m : Reader UInt8 ParseError α} {error : ParseError} (h : m s = .error error t)
    (hother : error ≠ .makeSliceLength) (hlens : ∀ length ∈ lengthsFrom mediaIDLen parts s.rest, length ≤ maxInt)
    (hmade : ∀ length ∈ t.made, length ∈ s.made ∨ length ≤ mediaIDLen) : Follows mediaIDLen m parts s where
  panics := by
    refine iff_of_false (fun ⟨u, hpanic⟩ => ?_) fun ⟨length, hmem, hlarge⟩ => ?_
    · rw [h] at hpanic
      cases hpanic
      exact hother rfl
    · exact absurd (hlens length hmem) (Nat.not_le.mpr hlarge)
  makes _ := by
    rw [finalState_of_error h]
    exact hmade

theorem follows_pure (a : α) : Follows mediaIDLen (pure a) [] s where
  panics := iff_of_false (fun ⟨_, h⟩ => by cases h) fun ⟨_, h, _⟩ => by cases h
  makes _ _ h := .inl h

variable {k : α → Reader UInt8 ParseError β}

-- What follows a part that was read is about the rest of the input.
theorem Follows.bind {m : Reader UInt8 ParseError α} {a : α} {part : Part} (first : List Nat) (h : Returns m s a t)
    (hlens : lengthsFrom mediaIDLen (part :: parts) s.rest = first ++ lengthsFrom mediaIDLen parts t.rest)
    (hfirst : ∀ length ∈ first, length ≤ maxInt) (hmade : ∀ length ∈ t.made, length ∈ s.made ∨ length ≤ mediaIDLen)
    (hk : Follows mediaIDLen (k a) parts t) : Follows mediaIDLen (m >>= k) (part :: parts) s where
  panics := by
    rw [bind_of_returns h, hk.panics, hlens]
    constructor
    · rintro ⟨length, hmem, hlarge⟩
      exact ⟨length, mem_append_right _ hmem, hlarge⟩
    · rintro ⟨length, hmem, hlarge⟩
      refine ⟨length, (mem_append.mp hmem).resolve_left fun hmem => ?_, hlarge⟩
      exact absurd (hfirst length hmem) (Nat.not_le.mpr hlarge)
  makes hall := by
    intro length hmem
    rw [finalState, bind_of_returns h] at hmem
    rw [hlens] at hall
    rcases hk.makes (fun length hmem => hall length (mem_append_right _ hmem)) length hmem with hmem | hle
    · exact hmade length hmem
    · exact .inr hle

variable {parse : Bytes → Option (α × Bytes)}

theorem follows_readWith {field : String} {cause : ReadError} (part : Part) (hlen : ∀ buf, part.length? buf = none)
    (hskip : ∀ buf, part.skip mediaIDLen buf = (parse buf).map Prod.snd)
    (hk : ∀ a t, Follows mediaIDLen (k a) parts t) :
    Follows mediaIDLen (readWith parse (.failedToRead field cause) >>= k) (part :: parts) s := by
  cases hparse : parse s.rest with
  | none =>
    have herr : readWith parse (ParseError.failedToRead field cause) s = .error (.failedToRead field cause) s := by
      simp only [readWith, hparse]
    refine .of_error (bind_of_error herr) (by simp) ?_ fun _ h => .inl h
    simp [lengthsFrom, hlen, hskip, hparse]
  | some read =>
    have hret : Returns (readWith parse (ParseError.failedToRead field cause)) s read.1
        { s with rest := read.2 } := by
      simp only [Returns, readWith, hparse]
    refine Follows.bind [] hret ?_ (by simp) (fun _ h => .inl h) (hk _ _)
    simp [lengthsFrom, hlen, hskip, hparse]

theorem follows_readUint {k : Nat → Reader UInt8 ParseError β} (hk : ∀ a t, Follows mediaIDLen (k a) parts t) :
    Follows mediaIDLen (readUint field >>= k) (.uvarint :: parts) s :=
  follows_readWith .uvarint (fun _ => rfl) (fun _ => rfl) hk

theorem make_panics {length : Nat} (h : maxInt < length) :
    make length s = .error .makeSliceLength { s with made := s.made ++ [length] } := by
  rw [make, if_pos h]
  rfl

theorem make_returns {length : Nat} (h : length ≤ maxInt) :
    Returns (make length) s ⟨⟩ { s with made := s.made ++ [length] } := by
  rw [make, if_neg (Nat.not_lt.mpr h)]
  rfl

-- A slice behind its length, which was read.
theorem readByteSlice_eq (mediaIDLen : Nat) (field : String) {length : Nat} {rest : Bytes}
    (h : readUvarint s.rest = some (length, rest)) :
    readByteSlice mediaIDLen field s =
      (if length ≤ maxInt ∧ mediaIDLen < length then
        throw (ParseError.failedToRead field (.largerThanExpected length mediaIDLen))
      else if length = 0 then pure []
      else do
        make length
        readWith (readFull length) (.failedToRead field .unexpectedEOF)) { s with rest } := by
  apply bind_of_returns
  simp only [Returns, readWith, h]

theorem follows_readByteSlice {k : Bytes → Reader UInt8 ParseError β} (hk : ∀ a t, Follows mediaIDLen (k a) parts t) :
    Follows mediaIDLen (readByteSlice mediaIDLen field >>= k) (.slice :: parts) s := by
  cases hread : readUvarint s.rest with
  | none =>
    have herr : readByteSlice mediaIDLen field s = .error (.failedToRead field .readingUvarintFailed) s := by
      apply bind_of_error
      simp only [readWith, hread]
    refine .of_error (bind_of_error herr) (by simp) ?_ fun _ h => .inl h
    simp [lengthsFrom, Part.length?, Part.skip, hread]
  | some read =>
    obtain ⟨length, rest⟩ := read
    have hrun := readByteSlice_eq mediaIDLen field hread
    by_cases hlarge : maxInt < length
    · -- The length goes to make, which panics.
      rw [if_neg fun h => Nat.not_le.mpr hlarge h.1, if_neg (by omega), bind_of_error (make_panics hlarge)] at hrun
      have hmem : length ∈ lengthsFrom mediaIDLen (.slice :: parts) s.rest := by
        simp [lengthsFrom, Part.length?, hread]
      exact ⟨iff_of_true ⟨_, bind_of_error hrun⟩ ⟨length, hmem, hlarge⟩,
        fun hall => absurd (hall length hmem) (Nat.not_le.mpr hlarge)⟩
    have hint := Nat.not_lt.mp hlarge
    by_cases hmax : mediaIDLen < length
    · rw [if_pos ⟨hint, hmax⟩] at hrun
      refine .of_error (bind_of_error hrun) (by simp) ?_ fun _ h => .inl h
      simpa [lengthsFrom, Part.length?, Part.skip, hread, hmax] using hint
    have hlens : lengthsFrom mediaIDLen (.slice :: parts) s.rest =
        [length] ++ ((readFull length rest).map fun read => lengthsFrom mediaIDLen parts read.2).getD [] := by
      simp [lengthsFrom, Part.length?, Part.skip, hread, hmax, Function.comp_def]
    rw [if_neg fun h => hmax h.2] at hrun
    by_cases hzero : length = 0
    · subst hzero
      exact Follows.bind [0] hrun hlens (by simp) (fun _ h => .inl h) (hk _ _)
    have hmade : ∀ made ∈ s.made ++ [length], made ∈ s.made ∨ made ≤ mediaIDLen := by
      intro made hmem
      rcases mem_append.mp hmem with hmem | hmem
      · exact .inl hmem
      · exact .inr (mem_singleton.mp hmem ▸ Nat.not_lt.mp hmax)
    rw [if_neg hzero, bind_of_returns (make_returns hint)] at hrun
    cases hfull : readFull length rest with
    | none =>
      simp only [readWith, hfull] at hrun
      refine .of_error (bind_of_error hrun) (by simp) ?_ hmade
      simpa [hlens, hfull] using hint
    | some read =>
      simp only [readWith, hfull] at hrun
      refine Follows.bind [length] hrun ?_ (by simpa using hint) hmade (hk _ _)
      rw [hlens, hfull]
      rfl

theorem follows_readBlock {field : String} {n : Nat}
    (hparse : ∀ buf, (parse buf).map Prod.snd = if (buf.take n).length = n then some (buf.drop n) else none)
    (hk : ∀ a t, Follows mediaIDLen (k a) parts t) :
    Follows mediaIDLen (readWith parse (.failedToRead field .unexpectedEOF) >>= k) (.block n :: parts) s := by
  refine follows_readWith _ (fun _ => rfl) (fun buf => ?_) hk
  rw [hparse, Part.skip, readFull, length_take]
  by_cases hlong : n ≤ buf.length
  · rw [if_pos hlong, if_pos (Nat.min_eq_left hlong), Option.map_some]
  · rw [if_neg hlong, if_neg (by omega), Option.map_none]

end Parts

theorem follows_readMediaID (type : UInt8) (buf : Bytes) :
    Follows (buf.length + 1) (readMediaID (type :: buf)) (partsOf type) ⟨buf, []⟩ := by
  unfold readMediaID partsOf
  dsimp only
  split
  · refine follows_readUint _ fun _ _ => follows_readByteSlice _ fun _ _ => follows_readUint _ fun _ _ => ?_
    refine follows_readByteSlice _ fun _ _ => follows_readByteSlice _ fun _ _ => ?_
    exact follows_readUint _ fun _ _ => follows_pure _
  split
  · refine follows_readBlock (fun _ => ?_) fun _ _ => follows_readBlock (fun _ => ?_) fun _ _ =>
      follows_readByteSlice _ fun _ _ => follows_pure _
    all_goals split <;> rfl
  split
  · refine follows_readBlock (fun _ => ?_) fun _ _ => follows_readBlock (fun _ => ?_) fun _ _ =>
      follows_readByteSlice _ fun _ _ => follows_pure _
    all_goals split <;> rfl
  split
  · unfold parseSticker
    split
    · exact .of_error rfl (by simp) (forall_mem_nil _) (forall_mem_nil _)
    · exact follows_pure _
  · exact .of_error rfl (by simp) (forall_mem_nil _) (forall_mem_nil _)

theorem parseDirectMediaInfo_panics :
    parseDirectMediaInfo mediaID = .error .makeSliceLength ↔ ∃ length ∈ sliceLengths mediaID, maxInt < length := by
  cases mediaID with
  | nil => exact ⟨nofun, nofun⟩
  | cons type buf =>
    have hpanics := (follows_readMediaID type buf).panics
    rw [sliceLengths, ← hpanics, parseDirectMediaInfo, tail_cons]
    cases readMediaID (type :: buf) ⟨buf, []⟩ with
    | ok info t => simp
    | error error t => simp

-- Nothing panics and no buffer is longer than the input, as long as no length that is read is negative as an int.
theorem parseDirectMediaInfo_allocates_iff (mediaID : Bytes) :
    (parseDirectMediaInfo mediaID ≠ .error .makeSliceLength ∧
      ∀ length ∈ allocations mediaID, length ≤ mediaID.length) ↔
    ∀ length ∈ sliceLengths mediaID, length ≤ maxInt := by
  have hpanics : parseDirectMediaInfo mediaID ≠ .error .makeSliceLength ↔
      ∀ length ∈ sliceLengths mediaID, length ≤ maxInt := by
    simp [parseDirectMediaInfo_panics]
  refine ⟨fun h => hpanics.mp h.1, fun hall => ⟨hpanics.mpr hall, ?_⟩⟩
  cases mediaID with
  | nil => exact forall_mem_nil _
  | cons type buf =>
    intro length hmem
    exact ((follows_readMediaID type buf).makes hall length hmem).resolve_left not_mem_nil

-- The length is passed to make before it is compared with what is left of the ID.
theorem huge_slice_length_panics : parseDirectMediaInfo ([0, 0] ++ writeUvarint (2 ^ 63)) = .error .makeSliceLength :=
  (parseDirectMediaInfo_panics _).mpr ⟨2 ^ 63, by decide +kernel, by decide⟩

end MautrixSignal.DirectMedia
