import MautrixSignal.Attachments
import MautrixSignal.Lib.Checks

namespace MautrixSignal.Attachments

open Lib List Pkcs7

variable (c : Crypto)

section Loop

variable {c}

-- The state of the loop with blocks of the file still to be decrypted. What was decrypted has
-- replaced the start of the file, so the bytes still to be read are one IV ahead.
def decryptingAt (done rest iv : Bytes) (blocks : Nat) : Decrypting where
  file := done ++ rest
  position := done.length + ivLength
  limit := blocks * aesBlockSize
  iv := iv
  offset := done.length
  pad := lastByte done

def chunkBlocks (blocks : Nat) : Nat := min (bufferSize / aesBlockSize) blocks

theorem chunk_decryptingAt (done rest iv : Bytes) (blocks : Nat) :
    (decryptingAt done rest iv blocks).chunk = (rest.drop ivLength).take (chunkBlocks blocks * aesBlockSize) := by
  have hmin : min bufferSize (blocks * aesBlockSize) = chunkBlocks blocks * aesBlockSize := by
    simp only [chunkBlocks, bufferSize, aesBlockSize]
    omega
  rw [Decrypting.chunk, decryptingAt]
  rw [hmin, ← drop_drop, drop_left]

theorem lastByte_append {a b : Bytes} (hb : b ≠ []) : lastByte (a ++ b) = lastByte b := by
  rw [lastByte, lastByte, getLast?_append_of_ne_nil a hb]

theorem writeAt_append {done rest data : Bytes} :
    writeAt (done ++ rest) data done.length = done ++ data ++ rest.drop data.length := by
  rw [writeAt, take_left, ← drop_drop, drop_left]

theorem round_decryptingAt {key done rest iv : Bytes} {blocks : Nat} (hiv : iv.length = aesBlockSize)
    (hrest : ivLength + blocks * aesBlockSize ≤ rest.length) (hblocks : 0 < blocks) :
    (decryptingAt done rest iv blocks).round c key =
      decryptingAt
        (done ++ Cbc.decryptBlocks aesBlockSize (c.decryptBlock key) (chunkBlocks blocks) iv (rest.drop ivLength))
        (rest.drop (chunkBlocks blocks * aesBlockSize))
        (Cbc.chained aesBlockSize (chunkBlocks blocks) iv (rest.drop ivLength))
        (blocks - chunkBlocks blocks) := by
  have hle : chunkBlocks blocks ≤ blocks := Nat.min_le_right _ _
  have hpos : 0 < chunkBlocks blocks := Nat.lt_min.mpr ⟨by decide, hblocks⟩
  have hdata : chunkBlocks blocks * aesBlockSize ≤ (rest.drop ivLength).length := by
    rw [length_drop]
    have hmul := Nat.mul_le_mul_right aesBlockSize hle
    omega
  have hchunk := chunk_decryptingAt done rest iv blocks
  have hlen : (decryptingAt done rest iv blocks).chunk.length = chunkBlocks blocks * aesBlockSize := by
    rw [hchunk, length_take, Nat.min_eq_left hdata]
  have hcount : (decryptingAt done rest iv blocks).chunk.length / aesBlockSize = chunkBlocks blocks := by
    rw [hlen, Nat.mul_div_cancel _ (by decide)]
  have hout : cryptBlocks c key iv (decryptingAt done rest iv blocks).chunk =
      Cbc.decryptBlocks aesBlockSize (c.decryptBlock key) (chunkBlocks blocks) iv (rest.drop ivLength) := by
    rw [cryptBlocks, hcount, hchunk, Cbc.decryptBlocks_take _ _ (Nat.le_refl _)]
  have hchained : Cbc.chained aesBlockSize (chunkBlocks blocks) iv (decryptingAt done rest iv blocks).chunk =
      Cbc.chained aesBlockSize (chunkBlocks blocks) iv (rest.drop ivLength) := by
    rw [hchunk, Cbc.chained_take _ _ (Nat.le_refl _)]
  have houtLength := Cbc.length_decryptBlocks (c.length_decryptBlock key) hiv hdata
  have houtNe : Cbc.decryptBlocks aesBlockSize (c.decryptBlock key) (chunkBlocks blocks) iv (rest.drop ivLength) ≠
      [] := by
    rw [← length_pos_iff, houtLength]
    exact Nat.mul_pos hpos (by decide)
  have hiv' : (decryptingAt done rest iv blocks).iv = iv := rfl
  unfold Decrypting.round
  rw [hiv', hcount, hlen, hout, hchained]
  simp [decryptingAt, houtLength, writeAt_append, lastByte_append houtNe, Nat.sub_mul, Nat.add_right_comm]

theorem decryptLoop_decryptingAt (key done : Bytes) {rest iv : Bytes} {blocks : Nat} (hiv : iv.length = aesBlockSize)
    (hrest : ivLength + blocks * aesBlockSize ≤ rest.length) :
    (decryptLoop c key (decryptingAt done rest iv blocks)).file =
      done ++ Cbc.decryptBlocks aesBlockSize (c.decryptBlock key) blocks iv (rest.drop ivLength) ++
        rest.drop (blocks * aesBlockSize) ∧
    (decryptLoop c key (decryptingAt done rest iv blocks)).pad = lastByte
      (done ++ Cbc.decryptBlocks aesBlockSize (c.decryptBlock key) blocks iv (rest.drop ivLength)) := by
  induction blocks using Nat.strongRecOn generalizing done rest iv with
  | ind blocks ih =>
    rw [decryptLoop]
    by_cases hzero : blocks = 0
    · subst hzero
      have hchunk : (decryptingAt done rest iv 0).chunk = [] := by
        rfl
      rw [dif_pos hchunk, Nat.zero_mul, drop_zero]
      simp [decryptingAt, Cbc.decryptBlocks]
    · have hblocks := Nat.pos_of_ne_zero hzero
      have hle : chunkBlocks blocks ≤ blocks := Nat.min_le_right _ _
      have hpos : 0 < chunkBlocks blocks := Nat.lt_min.mpr ⟨by decide, hblocks⟩
      have hmul := Nat.mul_le_mul_right aesBlockSize hle
      have hdata : chunkBlocks blocks * aesBlockSize ≤ (rest.drop ivLength).length := by
        rw [length_drop]
        omega
      have hchunk : (decryptingAt done rest iv blocks).chunk ≠ [] := by
        rw [chunk_decryptingAt, ← length_pos_iff, length_take, Nat.min_eq_left hdata]
        exact Nat.mul_pos hpos (by decide)
      have hrest' : ivLength + (blocks - chunkBlocks blocks) * aesBlockSize ≤
          (rest.drop (chunkBlocks blocks * aesBlockSize)).length := by
        rw [length_drop, Nat.sub_mul]
        omega
      -- The whole is the blocks of this round and those of the rounds after it.
      have hsplit : Cbc.decryptBlocks aesBlockSize (c.decryptBlock key)
          (chunkBlocks blocks + (blocks - chunkBlocks blocks)) iv (rest.drop ivLength) = _ :=
        Cbc.decryptBlocks_add _ _ _ _
      rw [Nat.add_sub_cancel' hle] at hsplit
      have hend : chunkBlocks blocks * aesBlockSize + (blocks - chunkBlocks blocks) * aesBlockSize =
          blocks * aesBlockSize := by
        rw [← Nat.add_mul, Nat.add_sub_cancel' hle]
      have hround := ih (blocks - chunkBlocks blocks) (Nat.sub_lt hblocks hpos)
        (done ++ Cbc.decryptBlocks aesBlockSize (c.decryptBlock key) (chunkBlocks blocks) iv (rest.drop ivLength))
        (Cbc.length_chained hiv hdata) hrest'
      rw [dif_neg hchunk, round_decryptingAt hiv hrest hblocks, hround.1, hround.2, hsplit]
      simp [Nat.add_comm _ ivLength, hend]

end Loop

section Checks

def decryptedBlocks (body key : Bytes) : Bytes :=
  cryptBlocks c (key.take macLength) (body.take ivLength)
    ((body.take (body.length - macLength)).drop ivLength)

variable {c} {body key digest plaintext : Bytes} {plaintextDigest : Bool} {size : UInt32}

theorem aesDecryptFile_eq {file : Bytes} {l : Nat} (hfile : l ≤ file.length) (hiv : ivLength ≤ l)
    (hmod : l % aesBlockSize = 0) :
    aesDecryptFile c key file l =
      let decrypted := cryptBlocks c key (file.take ivLength) ((file.take l).drop ivLength)
      if aesBlockSize < (lastByte decrypted).toNat then
        .error (.padLargerThanBlockSize (lastByte decrypted))
      else .ok (decrypted ++ file.drop (l - ivLength), l - (lastByte decrypted).toNat) := by
  have hread : (file.take (min ivLength l)).length = ivLength := by
    rw [Nat.min_eq_left hiv, length_take, Nat.min_eq_left (Nat.le_trans hiv hfile)]
  have hivLength : (file.take ivLength).length = aesBlockSize := by
    rw [length_take, Nat.min_eq_left (Nat.le_trans hiv hfile)]
    rfl
  have hblocks : (l - ivLength) / aesBlockSize * aesBlockSize = l - ivLength := by
    simp only [ivLength, aesBlockSize] at hiv hmod ⊢
    omega
  have hcount : ((file.take l).drop ivLength).length = l - ivLength := by
    rw [length_drop, length_take, Nat.min_eq_left hfile]
  have hdecrypted : cryptBlocks c key (file.take ivLength) ((file.take l).drop ivLength) =
      Cbc.decryptBlocks aesBlockSize (c.decryptBlock key) ((l - ivLength) / aesBlockSize) (file.take ivLength)
        (file.drop ivLength) := by
    rw [cryptBlocks, hcount, drop_take, Cbc.decryptBlocks_take _ _ (Nat.le_of_eq hblocks)]
  have hstart : decryptingAt [] file (file.take ivLength) ((l - ivLength) / aesBlockSize) = {
      file, position := ivLength, limit := l - ivLength, iv := file.take ivLength, offset := 0, pad := 0 } := by
    rw [decryptingAt, hblocks]
    rfl
  have hroom : ivLength + (l - ivLength) / aesBlockSize * aesBlockSize ≤ file.length := by
    omega
  obtain ⟨hcont, hpad⟩ := decryptLoop_decryptingAt (c := c) key [] hivLength hroom
  rw [hstart, hblocks, nil_append, ← hdecrypted] at hcont
  rw [hstart, nil_append, ← hdecrypted] at hpad
  rw [aesDecryptFile, if_neg (not_not.mpr hmod), if_neg (not_not.mpr hread)]
  simp [hcont, hpad]

def Authentic (c : Crypto) (body key digest : Bytes) (plaintextDigest : Bool) : Prop :=
  (plaintextDigest = false → c.sha256 body = digest) ∧ macLength + ivLength ≤ body.length ∧
    (body.length - macLength) % aesBlockSize = 0 ∧
    verifyMAC c (key.drop macLength) (body.take (body.length - macLength)) (body.drop (body.length - macLength)) = true

-- What the file holds after its blocks were overwritten: the last ones are left as they were.
def overwritten (c : Crypto) (body key : Bytes) : Bytes :=
  decryptedBlocks c body key ++ body.drop (body.length - macLength - ivLength)

-- The checks of decryptAttachmentFile behind them. Its size includes the IV.
def FileAccepts (c : Crypto) (body key digest : Bytes) (plaintextDigest : Bool) (size : UInt32) : Prop :=
  macLength ≤ key.length ∧ (lastByte (decryptedBlocks c body key)).toNat ≤ aesBlockSize ∧
    size.toNat ≤ body.length - macLength - (lastByte (decryptedBlocks c body key)).toNat ∧
    (plaintextDigest = true → c.sha256 ((overwritten c body key).take size.toNat) = digest)

-- The checks that only decryptAttachment makes.
def WellFormed (c : Crypto) (body key : Bytes) (size : UInt32) : Prop :=
  key.length = 64 ∧ Padded aesBlockSize (decryptedBlocks c body key) ∧
    size.toNat ≤ contentLength (decryptedBlocks c body key)

theorem decryptCBC_eq {iv data : Bytes} (hiv : iv.length = aesBlockSize)
    (hdata : data.length % aesBlockSize = 0) : decryptCBC c key iv data = .ok (cryptBlocks c key iv data) := by
  rw [decryptCBC, if_neg (not_not.mpr hiv), if_neg (not_not.mpr hdata)]

-- The two checks of the length are what keeps the slices and the block mode from panicking.
theorem aesDecrypt_eq {ciphertext : Bytes} (hiv : ivLength ≤ ciphertext.length)
    (hmod : ciphertext.length % aesBlockSize = 0) :
    aesDecrypt c key ciphertext =
      (c.unpad (cryptBlocks c key (ciphertext.take ivLength) (ciphertext.drop ivLength))).elim
        (.error .invalidPadding) .ok := by
  have hblock : (ciphertext.take ivLength).length = aesBlockSize := by
    rw [length_take, Nat.min_eq_left hiv]
    rfl
  have hblocks : (ciphertext.drop ivLength).length % aesBlockSize = 0 := by
    simp only [length_drop, ivLength, aesBlockSize] at hiv hmod ⊢
    omega
  rw [aesDecrypt, if_neg (Nat.not_lt.mpr hiv), if_neg (not_not.mpr hmod), slice_take hiv, slice_drop hiv]
  change (panicking (decryptCBC c key _ _) >>= _) = _
  rw [decryptCBC_eq hblock hblocks]
  cases hunpad : c.unpad (cryptBlocks c key (ciphertext.take ivLength) (ciphertext.drop ivLength)) with
  | none => simp [panicking, Except.mapError, bind, Except.bind, hunpad]
  | some plaintext => simp [panicking, Except.mapError, bind, Except.bind, hunpad]

theorem aesDecrypt_ok {ciphertext : Bytes} :
    aesDecrypt c key ciphertext = .ok plaintext ↔
      ivLength ≤ ciphertext.length ∧ ciphertext.length % aesBlockSize = 0 ∧
      c.unpad (cryptBlocks c key (ciphertext.take ivLength) (ciphertext.drop ivLength)) = some plaintext := by
  by_cases hiv : ivLength ≤ ciphertext.length
  · by_cases hmod : ciphertext.length % aesBlockSize = 0
    · rw [aesDecrypt_eq hiv hmod]
      cases c.unpad (cryptBlocks c key (ciphertext.take ivLength) (ciphertext.drop ivLength)) with
      | none => simp
      | some found => simp [hiv, hmod]
    · simp [aesDecrypt, Nat.not_lt.mpr hiv, hmod]
  · simp [aesDecrypt, Nat.not_le.mp hiv, hiv]

theorem macAndAESDecrypt_eq (hkey : key.length = 64) (hbody : macLength ≤ body.length) :
    macAndAESDecrypt c body key =
      if verifyMAC c (key.drop macLength) (body.take (body.length - macLength))
          (body.drop (body.length - macLength)) then
        aesDecrypt c (key.take macLength) (body.take (body.length - macLength))
      else .error .invalidMAC := by
  have hl : (body.length : Int) - macLength = ((body.length - macLength : Nat) : Int) := (Int.ofNat_sub hbody).symm
  have hkeys : macLength ≤ key.length := by
    rw [hkey]
    decide
  rw [macAndAESDecrypt, if_neg (not_not.mpr hkey), hl]
  dsimp only
  rw [slice_drop hkeys, slice_take (Nat.sub_le _ _), slice_drop (Nat.sub_le _ _), slice_take hkeys]
  rfl

theorem macAndAESDecrypt_of_short (hkey : key.length = 64) (hbody : body.length < macLength) :
    macAndAESDecrypt c body key = .error (.panic .sliceBounds) := by
  have hl : (body.length : Int) - macLength < 0 := by omega
  have hkeys : macLength ≤ key.length := by
    rw [hkey]
    decide
  rw [macAndAESDecrypt, if_neg (not_not.mpr hkey), slice_drop hkeys]
  dsimp only
  rw [slice_of_neg (.inr hl)]
  rfl

theorem macAndAESDecrypt_ok {decrypted : Bytes} :
    macAndAESDecrypt c body key = .ok decrypted ↔
      key.length = 64 ∧ macLength + ivLength ≤ body.length ∧ (body.length - macLength) % aesBlockSize = 0 ∧
      verifyMAC c (key.drop macLength) (body.take (body.length - macLength))
        (body.drop (body.length - macLength)) = true ∧
      Padded aesBlockSize (decryptedBlocks c body key) ∧
      (decryptedBlocks c body key).take (contentLength (decryptedBlocks c body key)) = decrypted := by
  by_cases hkey : key.length = 64
  swap
  · simp [macAndAESDecrypt, hkey]
  by_cases hbody : macLength ≤ body.length
  swap
  · rw [macAndAESDecrypt_of_short hkey (Nat.not_le.mp hbody)]
    exact ⟨fun h => (nomatch h), fun h => absurd h.2.1 (by omega)⟩
  have hlen : (body.take (body.length - macLength)).length = body.length - macLength := by
    rw [length_take, Nat.min_eq_left (Nat.sub_le _ _)]
  rw [macAndAESDecrypt_eq hkey hbody, ite_else_error_eq_ok, aesDecrypt_ok, hlen, c.unpad_eq_some]
  -- The IV lies before the MAC in every body that is long enough.
  have hblocks : macLength + ivLength ≤ body.length →
      cryptBlocks c (key.take macLength) ((body.take (body.length - macLength)).take ivLength)
        ((body.take (body.length - macLength)).drop ivLength) = decryptedBlocks c body key := by
    intro hlong
    rw [decryptedBlocks, take_take, Nat.min_eq_left (by omega)]
  constructor
  · rintro ⟨hmac, hiv, hmod, hunpad⟩
    have hlong : macLength + ivLength ≤ body.length := by omega
    rw [hblocks hlong] at hunpad
    exact ⟨hkey, hlong, hmod, hmac, hunpad⟩
  · rintro ⟨-, hlong, hmod, hmac, hunpad⟩
    rw [hblocks hlong]
    exact ⟨hmac, by omega, hmod, hunpad⟩

theorem decryptAttachment_ok_iff :
    decryptAttachment c body key digest plaintextDigest size = .ok plaintext ↔
      (plaintextDigest = false → c.sha256 body = digest) ∧
      ∃ decrypted, macAndAESDecrypt c body key = .ok decrypted ∧ size.toNat ≤ decrypted.length ∧
        (plaintextDigest = true → c.sha256 (decrypted.take size.toNat) = digest) ∧
        decrypted.take size.toNat = plaintext := by
  simp only [decryptAttachment, ite_error_eq_ok, bind_eq_ok_iff, Nat.not_lt, not_and, not_not]
  refine and_congr_right fun _ => exists_congr fun decrypted => and_congr_right fun _ => and_congr_right fun hsize => ?_
  simp [slice_take hsize, panicking, Except.mapError]

theorem decryptAttachment_ok :
    decryptAttachment c body key digest plaintextDigest size = .ok plaintext ↔
      Authentic c body key digest plaintextDigest ∧ WellFormed c body key size ∧
      (plaintextDigest = true → c.sha256 ((decryptedBlocks c body key).take size.toNat) = digest) ∧
      (decryptedBlocks c body key).take size.toNat = plaintext := by
  have hlen : ((decryptedBlocks c body key).take
      (contentLength (decryptedBlocks c body key))).length =
      contentLength (decryptedBlocks c body key) := by
    rw [length_take, Nat.min_eq_left (contentLength_le _)]
  have htake : size.toNat ≤ contentLength (decryptedBlocks c body key) →
      ((decryptedBlocks c body key).take (contentLength (decryptedBlocks c body key))).take size.toNat =
        (decryptedBlocks c body key).take size.toNat := by
    intro hsize
    rw [take_take, Nat.min_eq_left hsize]
  simp only [decryptAttachment_ok_iff, macAndAESDecrypt_ok]
  constructor
  · rintro ⟨hdig, _, ⟨hkey, hlong, hmod, hmac, hpad, rfl⟩, hsize, hplain, hres⟩
    rw [hlen] at hsize
    rw [htake hsize] at hplain hres
    exact ⟨⟨hdig, hlong, hmod, hmac⟩, ⟨hkey, hpad, hsize⟩, hplain, hres⟩
  · rintro ⟨⟨hdig, hlong, hmod, hmac⟩, ⟨hkey, hpad, hsize⟩, hplain, hres⟩
    refine ⟨hdig, _, ⟨hkey, hlong, hmod, hmac, hpad, rfl⟩, ?_⟩
    rw [hlen, htake hsize]
    exact ⟨hsize, hplain, hres⟩

theorem aesDecryptFile_ok {content : Bytes} {decryptedSize : Nat} (hlong : macLength ≤ body.length) :
    aesDecryptFile c (key.take macLength) body (body.length - macLength) = .ok (content, decryptedSize) ↔
      macLength + ivLength ≤ body.length ∧ (body.length - macLength) % aesBlockSize = 0 ∧
      (lastByte (decryptedBlocks c body key)).toNat ≤ aesBlockSize ∧ overwritten c body key = content ∧
      body.length - macLength - (lastByte (decryptedBlocks c body key)).toNat = decryptedSize := by
  by_cases hmod : (body.length - macLength) % aesBlockSize = 0
  · by_cases hiv : macLength + ivLength ≤ body.length
    · rw [aesDecryptFile_eq (Nat.sub_le _ _) (by omega) hmod]
      simp only [ite_error_eq_ok, Nat.not_lt, Except.ok.injEq, Prod.mk.injEq, hiv, hmod, true_and]
      rfl
    · have hread : (body.take (min ivLength (body.length - macLength))).length ≠ ivLength := by
        rw [length_take]
        omega
      rw [aesDecryptFile, if_neg (not_not.mpr hmod), if_pos hread]
      exact ⟨fun h => (nomatch h), fun h => absurd h.1 hiv⟩
  · rw [aesDecryptFile, if_pos hmod]
    exact ⟨fun h => (nomatch h), fun h => absurd h.2.1 hmod⟩

theorem length_decryptedBlocks (key : Bytes) (hlong : macLength + ivLength ≤ body.length)
    (hmod : (body.length - macLength) % aesBlockSize = 0) :
    (decryptedBlocks c body key).length = body.length - macLength - ivLength := by
  have hiv : (body.take ivLength).length = aesBlockSize := by
    rw [length_take, Nat.min_eq_left (by omega)]
    rfl
  have hdata : ((body.take (body.length - macLength)).drop ivLength).length =
      body.length - macLength - ivLength := by
    rw [length_drop, length_take, Nat.min_eq_left (Nat.sub_le _ _)]
  have hblocks : (body.length - macLength - ivLength) / aesBlockSize * aesBlockSize =
      body.length - macLength - ivLength := by
    simp only [ivLength, aesBlockSize] at hlong hmod ⊢
    omega
  have hlen := Cbc.length_decryptBlocks (c.length_decryptBlock (key.take macLength)) hiv
    (Nat.le_of_eq (hblocks.trans hdata.symm))
  rw [decryptedBlocks, cryptBlocks, hdata, hlen, hblocks]

theorem length_overwritten (hlong : macLength + ivLength ≤ body.length)
    (hmod : (body.length - macLength) % aesBlockSize = 0) : (overwritten c body key).length = body.length := by
  rw [overwritten, length_append, length_decryptedBlocks key hlong hmod, length_drop]
  omega

theorem truncate_eq {file : Bytes} {size : Nat} (h : size ≤ file.length) : truncate file size = file.take size := by
  rw [truncate, Nat.sub_eq_zero_of_le h, replicate_zero, append_nil]

theorem decryptAttachmentFile_ok :
    decryptAttachmentFile c body body.length key digest plaintextDigest size = .ok plaintext ↔
      Authentic c body key digest plaintextDigest ∧ FileAccepts c body key digest plaintextDigest size ∧
      (overwritten c body key).take size.toNat = plaintext := by
  have hmacBytes : macLength ≤ body.length → (body.drop (body.length - macLength)).take macLength =
      body.drop (body.length - macLength) := by
    intro hlong
    apply take_of_length_le
    rw [length_drop]
    omega
  simp only [decryptAttachmentFile, ite_error_eq_ok, ite_else_error_eq_ok, bind_eq_ok_iff, Prod.exists, Nat.not_lt,
    not_or, not_and, not_not, Nat.le_refl, and_true, Except.ok.injEq]
  constructor
  · rintro ⟨hdig, hlong, hkey, hmac, content, decryptedSize, hfile, hsize, hplain, hres⟩
    obtain ⟨hiv, hmod, hpad, rfl, rfl⟩ := (aesDecryptFile_ok hlong).mp hfile
    have hfits : size.toNat ≤ (overwritten c body key).length := by
      rw [length_overwritten hiv hmod]
      omega
    rw [hmacBytes hlong] at hmac
    rw [truncate_eq hfits] at hplain hres
    exact ⟨⟨hdig, hiv, hmod, hmac⟩, ⟨hkey, hpad, hsize, hplain⟩, hres⟩
  · rintro ⟨⟨hdig, hiv, hmod, hmac⟩, ⟨hkey, hpad, hsize, hplain⟩, hres⟩
    have hlong : macLength ≤ body.length := by omega
    have hfits : size.toNat ≤ (overwritten c body key).length := by
      rw [length_overwritten hiv hmod]
      omega
    refine ⟨hdig, hlong, hkey, ?_, _, _, (aesDecryptFile_ok hlong).mpr ⟨hiv, hmod, hpad, rfl, rfl⟩, hsize, ?_⟩
    · rw [hmacBytes hlong]
      exact hmac
    · rw [truncate_eq hfits]
      exact ⟨hplain, hres⟩

theorem take_overwritten (hwell : WellFormed c body key size) :
    (overwritten c body key).take size.toNat = (decryptedBlocks c body key).take size.toNat := by
  have hsize := Nat.le_trans hwell.2.2 (contentLength_le _)
  rw [overwritten, take_append_of_le_length hsize]

theorem fileAccepts_of_wellFormed (hauth : Authentic c body key digest plaintextDigest)
    (hwell : WellFormed c body key size)
    (hplain : plaintextDigest = true → c.sha256 ((decryptedBlocks c body key).take size.toNat) = digest) :
    FileAccepts c body key digest plaintextDigest size := by
  obtain ⟨-, hlong, hmod, -⟩ := hauth
  have hlen := length_decryptedBlocks (c := c) key hlong hmod
  refine ⟨?_, hwell.2.1.2.1, ?_, ?_⟩
  · rw [hwell.1]
    decide
  · have hsize := hwell.2.2
    rw [contentLength, hlen] at hsize
    omega
  · rw [take_overwritten hwell]
    exact hplain

-- The two functions agree exactly if what the file version accepts is well formed, which only the other checks.
theorem same_plaintext_iff (c : Crypto) (body key digest : Bytes) (plaintextDigest : Bool) (size : UInt32) :
    (∀ plaintext, decryptAttachmentFile c body body.length key digest plaintextDigest size = .ok plaintext ↔
      decryptAttachment c body key digest plaintextDigest size = .ok plaintext) ↔
    (Authentic c body key digest plaintextDigest → FileAccepts c body key digest plaintextDigest size →
      WellFormed c body key size) := by
  constructor
  · intro hsame hauth hfile
    have hmemory := (hsame _).mp (decryptAttachmentFile_ok.mpr ⟨hauth, hfile, rfl⟩)
    exact (decryptAttachment_ok.mp hmemory).2.1
  · intro hcond plaintext
    rw [decryptAttachmentFile_ok, decryptAttachment_ok]
    constructor
    · rintro ⟨hauth, hfile, hres⟩
      have hwell := hcond hauth hfile
      have hplain := hfile.2.2.2
      rw [take_overwritten hwell] at hplain hres
      exact ⟨hauth, hwell, hplain, hres⟩
    · rintro ⟨hauth, hwell, hplain, hres⟩
      refine ⟨hauth, fileAccepts_of_wellFormed hauth hwell hplain, ?_⟩
      rw [take_overwritten hwell]
      exact hres

variable {panic : Panic}

theorem aesDecrypt_ne_panic (c : Crypto) (key ciphertext : Bytes) (panic : Panic) :
    aesDecrypt c key ciphertext ≠ .error (.panic panic) := by
  by_cases hiv : ivLength ≤ ciphertext.length
  · by_cases hmod : ciphertext.length % aesBlockSize = 0
    · rw [aesDecrypt_eq hiv hmod]
      cases c.unpad (cryptBlocks c key (ciphertext.take ivLength) (ciphertext.drop ivLength)) with
      | none => simp
      | some plaintext => simp
    · simp [aesDecrypt, Nat.not_lt.mpr hiv, hmod]
  · simp [aesDecrypt, Nat.not_le.mp hiv]

theorem macAndAESDecrypt_panic :
    macAndAESDecrypt c body key = .error (.panic panic) ↔
      key.length = 64 ∧ body.length < macLength ∧ panic = .sliceBounds := by
  by_cases hkey : key.length = 64
  swap
  · simp [macAndAESDecrypt, hkey]
  by_cases hbody : macLength ≤ body.length
  swap
  · simp [macAndAESDecrypt_of_short hkey (Nat.not_le.mp hbody), hkey, Nat.not_le.mp hbody, eq_comm]
  have hrest := aesDecrypt_ne_panic c (key.take macLength) (body.take (body.length - macLength)) panic
  rw [macAndAESDecrypt_eq hkey hbody]
  split
  · simp [hrest, Nat.not_lt.mpr hbody]
  · simp [Nat.not_lt.mpr hbody]

theorem decryptAttachment_panic :
    decryptAttachment c body key digest plaintextDigest size = .error (.panic panic) ↔
      (plaintextDigest = false → c.sha256 body = digest) ∧ key.length = 64 ∧ body.length < macLength ∧
      panic = .sliceBounds := by
  rw [← macAndAESDecrypt_panic (c := c), decryptAttachment]
  by_cases hdig : plaintextDigest = false ∧ c.sha256 body ≠ digest
  · rw [if_pos hdig]
    exact ⟨fun h => (nomatch h), fun h => absurd (h.1 hdig.1) hdig.2⟩
  have hpasses : plaintextDigest = false → c.sha256 body = digest := by
    simpa using hdig
  rw [if_neg hdig]
  cases hres : macAndAESDecrypt c body key with
  | error e => exact ⟨fun h => ⟨hpasses, h⟩, fun h => h.2⟩
  | ok decrypted =>
    refine ⟨fun h => ?_, fun h => nomatch h.2⟩
    simp only [bind, Except.bind] at h
    split at h
    · cases h
    · rename_i hsize
      -- The slice up to the declared size is within the bounds that were just checked.
      rw [slice_take (Nat.not_lt.mp hsize)] at h
      simp only [panicking, Except.mapError] at h
      split at h <;> cases h

-- Only the slice that cuts off the MAC can panic.
theorem decryptAttachment_panics_iff (c : Crypto) (body key digest : Bytes) (plaintextDigest : Bool) (size : UInt32) :
    (∀ panic, decryptAttachment c body key digest plaintextDigest size ≠ .error (.panic panic)) ↔
      ¬ ((plaintextDigest = false → c.sha256 body = digest) ∧ key.length = 64 ∧ body.length < macLength) := by
  constructor
  · rintro hnever ⟨hdig, hkey, hbody⟩
    exact hnever .sliceBounds (decryptAttachment_panic.mpr ⟨hdig, hkey, hbody, rfl⟩)
  · intro hcond panic h
    obtain ⟨hdig, hkey, hbody, -⟩ := decryptAttachment_panic.mp h
    exact hcond ⟨hdig, hkey, hbody⟩

end Checks

def xorAll (data : Bytes) : UInt8 := data.foldl (· ^^^ ·) 0

def sampleCrypto : Crypto where
  sha256 data := List.replicate 32 (xorAll data)
  hmac key data := List.replicate 32 (xorAll (key ++ data))
  encryptBlock key block := block.map (· ^^^ key.headD 0)
  decryptBlock key block := block.map (· ^^^ key.headD 0)
  pad := pad aesBlockSize
  unpad := unpad aesBlockSize
  length_hmac _ _ := length_replicate
  length_encryptBlock _ _ h := (length_map _).trans h
  length_decryptBlock _ _ h := (length_map _).trans h
  decryptBlock_encryptBlock key block _ := by
    simp only [map_map, Function.comp_def, UInt8.xor_assoc, UInt8.xor_self, UInt8.xor_zero, map_id']
  length_pad data := by
    rw [length_pad data (by decide), Nat.mul_mod_left]
  unpad_pad data := unpad_pad data (by decide) (by decide)
  unpad_eq_some _ _ := unpad_eq_some

def sampleKeys : Bytes := List.replicate 64 9

-- The MAC is sliced off the body before its length is looked at.
theorem empty_body_panics :
    decryptAttachment sampleCrypto [] sampleKeys (sampleCrypto.sha256 []) false 0 = .error (.panic .sliceBounds) := by
  decide +kernel

def sampleBody : Bytes := macAndAESEncrypt sampleCrypto sampleKeys (List.replicate 16 3) [1, 2, 3, 4, 5]

-- The size is declared as one more than the five bytes that were encrypted.
theorem file_takes_padding_as_content :
    decryptAttachment sampleCrypto sampleBody sampleKeys (sampleCrypto.sha256 sampleBody) false 6 =
      .error (.shorterThanExpected 5 6) ∧
    decryptAttachmentFile sampleCrypto sampleBody sampleBody.length sampleKeys (sampleCrypto.sha256 sampleBody)
      false 6 = .ok [1, 2, 3, 4, 5, 11] := by
  decide +kernel

end MautrixSignal.Attachments
