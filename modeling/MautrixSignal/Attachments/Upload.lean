import MautrixSignal.Attachments.Equivalence

namespace MautrixSignal.Attachments

open Lib List

theorem extend_eq {data : Slice} {paddedLen : Nat} (h : data.data.length ≤ paddedLen) :
    extend data paddedLen = data.data ++ List.replicate (paddedLen - data.data.length) 0 := by
  unfold extend
  split
  · rename_i hcapacity
    rw [Slice.capacity] at hcapacity
    have hlen : ((data.data ++ data.spare).take paddedLen).length = paddedLen := by
      rw [length_take, length_append, Nat.min_eq_left hcapacity]
    have hkept : ((data.data ++ data.spare).take paddedLen).take data.data.length = data.data := by
      rw [take_take, Nat.min_eq_left h, take_left]
    rw [foldl_set _ _ _ _ (by rw [hlen]; omega), hkept]
  · rw [take_of_length_le h, drop_replicate]

section RoundTrip

variable {c : Crypto} {keys iv plaintext : Bytes}

def blockCount (c : Crypto) (plaintext : Bytes) : Nat := (c.pad plaintext).length / aesBlockSize

theorem length_padded (c : Crypto) (plaintext : Bytes) :
    (c.pad plaintext).length = blockCount c plaintext * aesBlockSize :=
  (Nat.div_mul_cancel (Nat.dvd_of_mod_eq_zero (c.length_pad plaintext))).symm

theorem length_blocks (key : Bytes) (hiv : iv.length = ivLength) :
    (Cbc.encryptBlocks aesBlockSize (c.encryptBlock key) (blockCount c plaintext) iv (c.pad plaintext)).length =
      blockCount c plaintext * aesBlockSize :=
  Cbc.length_encryptBlocks (c.length_encryptBlock key) hiv (Nat.le_of_eq (length_padded c plaintext).symm)

theorem length_macAndAESEncrypt (keys plaintext : Bytes) (hiv : iv.length = ivLength) :
    (macAndAESEncrypt c keys iv plaintext).length =
      ivLength + blockCount c plaintext * aesBlockSize + macLength := by
  rw [macAndAESEncrypt, appendMAC, length_append, c.length_hmac, aesEncrypt, length_append, hiv]
  exact congrArg (ivLength + · + macLength) (length_blocks _ hiv)

theorem take_macAndAESEncrypt (c : Crypto) (keys iv plaintext : Bytes) :
    (macAndAESEncrypt c keys iv plaintext).take ((macAndAESEncrypt c keys iv plaintext).length - macLength) =
      aesEncrypt c (keys.take macLength) iv plaintext := by
  rw [macAndAESEncrypt, appendMAC, length_append, c.length_hmac, Nat.add_sub_cancel, take_left]
  rfl

theorem drop_macAndAESEncrypt (c : Crypto) (keys iv plaintext : Bytes) :
    (macAndAESEncrypt c keys iv plaintext).drop ((macAndAESEncrypt c keys iv plaintext).length - macLength) =
      c.hmac (keys.drop macLength) (aesEncrypt c (keys.take macLength) iv plaintext) := by
  rw [macAndAESEncrypt, appendMAC, length_append, c.length_hmac, Nat.add_sub_cancel, drop_left]
  rfl

theorem decryptedBlocks_macAndAESEncrypt (keys : Bytes) (hiv : iv.length = ivLength) :
    decryptedBlocks c (macAndAESEncrypt c keys iv plaintext) keys = c.pad plaintext := by
  have hstart : (macAndAESEncrypt c keys iv plaintext).take ivLength = iv := by
    rw [macAndAESEncrypt, appendMAC, aesEncrypt, append_assoc, take_left' hiv]
  have hcount : (Cbc.encryptBlocks aesBlockSize (c.encryptBlock (keys.take macLength)) (blockCount c plaintext) iv
      (c.pad plaintext)).length / aesBlockSize = blockCount c plaintext := by
    rw [length_blocks _ hiv, Nat.mul_div_cancel _ (by decide)]
  rw [decryptedBlocks, take_macAndAESEncrypt, hstart, aesEncrypt, drop_left' hiv, cryptBlocks]
  change Cbc.decryptBlocks _ _ ((Cbc.encryptBlocks _ _ (blockCount c plaintext) _ _).length / _) _ _ = _
  rw [hcount]
  exact Cbc.decryptBlocks_encryptBlocks (c.length_encryptBlock _) (c.decryptBlock_encryptBlock _) hiv
    (length_padded c plaintext)

theorem macAndAESDecrypt_macAndAESEncrypt (hkeys : keys.length = 64) (hiv : iv.length = ivLength) :
    macAndAESDecrypt c (macAndAESEncrypt c keys iv plaintext) keys = .ok plaintext := by
  have hlen := length_macAndAESEncrypt (c := c) keys plaintext hiv
  have hmac : verifyMAC c (keys.drop macLength)
      ((macAndAESEncrypt c keys iv plaintext).take ((macAndAESEncrypt c keys iv plaintext).length - macLength))
      ((macAndAESEncrypt c keys iv plaintext).drop ((macAndAESEncrypt c keys iv plaintext).length - macLength)) =
      true := by
    rw [take_macAndAESEncrypt, drop_macAndAESEncrypt]
    exact decide_eq_true rfl
  have hunpad := c.unpad_pad plaintext
  rw [← decryptedBlocks_macAndAESEncrypt (c := c) keys hiv, c.unpad_eq_some] at hunpad
  refine macAndAESDecrypt_ok.mpr ⟨hkeys, ?_, ?_, hmac, hunpad⟩
  · omega
  · rw [hlen, Nat.add_sub_cancel]
    simp only [ivLength, aesBlockSize]
    omega

theorem decryptAttachment_macAndAESEncrypt {body : Bytes} {size : UInt32} (hkeys : keys.length = 64)
    (hiv : iv.length = ivLength) (hsize : size.toNat = body.length) (hstart : plaintext.take body.length = body)
    (hfits : body.length ≤ plaintext.length) :
    decryptAttachment c (macAndAESEncrypt c keys iv plaintext) keys
      (c.sha256 (macAndAESEncrypt c keys iv plaintext)) false size = .ok body := by
  have hdecrypted : macAndAESDecrypt c (macAndAESEncrypt c keys iv plaintext) keys = .ok plaintext :=
    macAndAESDecrypt_macAndAESEncrypt hkeys hiv
  rw [decryptAttachment_ok_iff, hsize]
  exact ⟨fun _ => rfl, plaintext, hdecrypted, hfits, fun h => (nomatch h), hstart⟩

end RoundTrip

section Upload

variable {c : Crypto}

def UploadServer.Accepts (server : UploadServer) : Prop :=
  ∃ resp attributes, server.sendRequest = some resp ∧ server.decodeWSResponseBody resp = some attributes ∧
    ∀ data, server.upload attributes data = true

theorem uploadAttachment_ok {server : UploadServer} {random : Random} {paddedLen : Nat} {body : Slice}
    {pointer : Receive.AttachmentPointer} {uploaded : Bytes}
    (h : uploadAttachment c server random paddedLen body = .ok (pointer, uploaded)) :
    uploaded = macAndAESEncrypt c random.keys random.iv (extend body paddedLen) ∧
      pointer.key = random.keys ∧ pointer.digest = some (c.sha256 uploaded) ∧
      pointer.size = UInt32.ofNat body.data.length := by
  simp only [uploadAttachment, ite_error_eq_ok] at h
  obtain ⟨-, h⟩ := h
  split at h
  · cases h
  · split at h
    · cases h
    · obtain ⟨-, h⟩ := ite_else_error_eq_ok.mp h
      cases h
      exact ⟨rfl, rfl, rfl, rfl⟩

theorem uploadAttachment_returns {server : UploadServer} (random : Random) {paddedLen : Nat} {body : Slice}
    (hsrv : server.Accepts) (hpad : body.data.length ≤ paddedLen) :
    ∃ pointer uploaded, uploadAttachment c server random paddedLen body = .ok (pointer, uploaded) := by
  obtain ⟨resp, attributes, hsend, hdecode, hupload⟩ := hsrv
  simp only [uploadAttachment, hsend, hdecode, hupload, if_neg (Nat.not_lt.mpr hpad)]
  exact ⟨_, _, rfl⟩

-- What is uploaded decrypts to the attachment with the key, digest and size of its pointer.
theorem decryptAttachment_uploadAttachment (c : Crypto) (server : UploadServer) (random : Random)
    (paddedLen : Nat) (body : Slice) (hbody : body.data.length < 2 ^ 31)
    (hpad : body.data.length ≤ paddedLen) :
    (∀ pointer uploaded, uploadAttachment c server random paddedLen body = .ok (pointer, uploaded) →
      ∃ digest, pointer.digest = some digest ∧
        decryptAttachment c uploaded pointer.key digest false pointer.size = .ok body.data) ∧
    (server.Accepts →
      ∃ pointer uploaded, uploadAttachment c server random paddedLen body = .ok (pointer, uploaded)) := by
  refine ⟨fun pointer uploaded h => ?_, fun hsrv => uploadAttachment_returns random hsrv hpad⟩
  obtain ⟨rfl, hkey, hdig, hsize⟩ := uploadAttachment_ok h
  refine ⟨_, hdig, ?_⟩
  have hextend := extend_eq hpad
  have hlen : (UInt32.ofNat body.data.length).toNat = body.data.length := by
    rw [UInt32.toNat_ofNat']
    omega
  rw [hkey, hsize]
  apply decryptAttachment_macAndAESEncrypt random.length_keys random.length_iv hlen
  · rw [hextend, take_left]
  · rw [hextend, length_append]
    omega

def sampleRandom : Random where
  keys := sampleKeys
  iv := List.replicate 16 3
  length_keys := rfl
  length_iv := rfl

def sampleServer : UploadServer where
  sendRequest := some [1]
  decodeWSResponseBody _ := some { cdn := 3, key := [97] }
  uploadAttachmentTUS _ _ := true
  uploadAttachmentLegacy _ _ := false

theorem decryptAttachment_uploadAttachment_sample :
    (∃ pointer uploaded digest,
      uploadAttachment sampleCrypto sampleServer sampleRandom 5 ⟨[1, 2, 3], [8, 9]⟩ = .ok (pointer, uploaded) ∧
      pointer.digest = some digest ∧
      decryptAttachment sampleCrypto uploaded pointer.key digest false pointer.size = .ok [1, 2, 3]) ∧
    ∃ pointer uploaded digest,
      uploadAttachment sampleCrypto sampleServer sampleRandom 40 ⟨[1, 2, 3], [8, 9]⟩ = .ok (pointer, uploaded) ∧
      pointer.digest = some digest ∧
      decryptAttachment sampleCrypto uploaded pointer.key digest false pointer.size = .ok [1, 2, 3] := by
  have haccepts : sampleServer.Accepts := ⟨[1], { cdn := 3, key := [97] }, rfl, rfl, fun _ => rfl⟩
  constructor
  · obtain ⟨hdecrypts, hret⟩ := decryptAttachment_uploadAttachment sampleCrypto sampleServer sampleRandom 5
      ⟨[1, 2, 3], [8, 9]⟩ (by decide) (by decide)
    obtain ⟨pointer, uploaded, h⟩ := hret haccepts
    obtain ⟨digest, hdig, hbody⟩ := hdecrypts pointer uploaded h
    exact ⟨pointer, uploaded, digest, h, hdig, hbody⟩
  · obtain ⟨hdecrypts, hret⟩ := decryptAttachment_uploadAttachment sampleCrypto sampleServer sampleRandom 40
      ⟨[1, 2, 3], [8, 9]⟩ (by decide) (by decide)
    obtain ⟨pointer, uploaded, h⟩ := hret haccepts
    obtain ⟨digest, hdig, hbody⟩ := hdecrypts pointer uploaded h
    exact ⟨pointer, uploaded, digest, h, hdig, hbody⟩

end Upload

end MautrixSignal.Attachments
