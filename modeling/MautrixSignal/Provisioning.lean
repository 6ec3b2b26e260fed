import MautrixSignal.Attachments.Equivalence

namespace MautrixSignal.Provisioning

open Lib Pkcs7 Attachments

structure Cipher where
  PublicKey : Type
  Message : Type
  deserializePublicKey : Bytes → Option PublicKey
  agree : PublicKey → Option Bytes
  hkdf : (agreement : Bytes) → Bytes
  crypto : Crypto
  unmarshal : Bytes → Option Message

inductive DecryptError
  | panic (panic : Panic)
  | publicKey
  | noBody
  | bodyTooShort (length : Nat)
  | invalidVersion (version : UInt8)
  | invalidMACSize (size : Nat)
  | invalidIVSize (size : Nat)
  | agree
  | invalidMAC
  | unpad
  | unmarshal

def cipherKeySize : Nat := 32
def macSize : Nat := 32
def ivOffset : Nat := 1
def ivLength : Nat := 16
def ciphertextOffset : Nat := ivOffset + ivLength

def unpadPKCS7 (data : Bytes) : Option Bytes :=
  let paddingLen := (lastByte data).toNat
  if data = [] then none
  else if paddingLen = 0 ∨ data.length < paddingLen then none
  else if (data.drop (data.length - paddingLen)).any (· ≠ UInt8.ofNat paddingLen) then none
  else some (data.take (data.length - paddingLen))

variable (c : Cipher)

def panicking {α : Type} (x : Except Panic α) : Except DecryptError α := x.mapError .panic

def verifyMAC (agreement ivAndCipherText mac : Bytes) : Bool :=
  Attachments.verifyMAC c.crypto ((c.hkdf agreement).drop 32) ivAndCipherText mac

def decryptCipherText (agreement iv cipherText : Bytes) : Except DecryptError c.Message := do
  let decryptedWithPadding ←
    panicking (decryptCBC c.crypto ((c.hkdf agreement).take 32) iv cipherText)
  match unpadPKCS7 decryptedWithPadding with
  | none => .error .unpad
  | some decrypted =>
    match c.unmarshal decrypted with
    | none => .error .unmarshal
    | some message => .ok message

-- The body behind the check of its length.
def decryptBody (masterEphemeral : c.PublicKey) (body : Bytes) : Except DecryptError c.Message := do
  let version ← body.head?.elim (.error (.panic .indexOutOfRange)) .ok
  if version ≠ 1 then .error (.invalidVersion version)
  else
    let iv ← panicking (slice body ivOffset (ivOffset + ivLength : Nat))
    let mac ← panicking (slice body (body.length - macSize) body.length)
    if mac.length ≠ macSize then .error (.invalidMACSize mac.length)
    else if iv.length ≠ ivLength then .error (.invalidIVSize iv.length)
    else
      let cipherText ← panicking (slice body ciphertextOffset (body.length - cipherKeySize))
      let ivAndCipherText ← panicking (slice body 0 (body.length - cipherKeySize))
      match c.agree masterEphemeral with
      | none => .error .agree
      | some agreement =>
        if verifyMAC c agreement ivAndCipherText mac then decryptCipherText c agreement iv cipherText
        else .error .invalidMAC

def decrypt (publicKey : Bytes) (body : Option Bytes) : Except DecryptError c.Message :=
  match c.deserializePublicKey publicKey, body with
  | none, _ => .error .publicKey
  | some _, none => .error .noBody
  | some masterEphemeral, some body =>
    if body.length < ciphertextOffset + cipherKeySize + macSize then .error (.bodyTooShort body.length)
    else decryptBody c masterEphemeral body

def validMAC (agreement body : Bytes) : Bool :=
  verifyMAC c agreement (body.take (body.length - cipherKeySize)) (body.drop (body.length - macSize))

def Authentic (publicKey body : Bytes) : Prop :=
  ciphertextOffset + cipherKeySize + macSize ≤ body.length ∧ body.head? = some 1 ∧
    ∃ agreement, (c.deserializePublicKey publicKey).bind c.agree = some agreement ∧ validMAC c agreement body = true

theorem unpadPKCS7_eq (data : Bytes) : unpadPKCS7 data = unpad 255 data := by
  have hlen : (data.drop (contentLength data)).length = (lastByte data).toNat ↔
      ¬data.length < (lastByte data).toNat := by
    rw [List.length_drop, contentLength]
    omega
  have hpad : Padded 255 data ↔ (lastByte data).toNat ≠ 0 ∧
      ¬data.length < (lastByte data).toNat ∧
      (data.drop (contentLength data)).any (· ≠ lastByte data) = false := by
    rw [Padded, padding, List.eq_replicate_iff, hlen, UInt8.ofNat_toNat, UInt8.lt_iff_toNat_lt]
    simp [Nat.pos_iff_ne_zero, Nat.le_of_lt_succ (lastByte data).toNat_lt]
  rw [unpadPKCS7, unpad, UInt8.ofNat_toNat, ← contentLength]
  by_cases hne : data = []
  · subst hne
    rfl
  · split_ifs <;> grind

section Panics

variable {c} {body : Bytes}

-- Every slice is within the bounds of a body that is long enough.
theorem decryptBody_eq (masterEphemeral : c.PublicKey)
    (hlong : ciphertextOffset + cipherKeySize + macSize ≤ body.length) (hver : body.head? = some 1) :
    decryptBody c masterEphemeral body =
      (c.agree masterEphemeral).elim (.error .agree) fun agreement =>
        if validMAC c agreement body then
          decryptCipherText c agreement ((body.take (ivOffset + ivLength)).drop ivOffset)
            ((body.take (body.length - cipherKeySize)).drop ciphertextOffset)
        else .error .invalidMAC := by
  have hbound : 81 ≤ body.length := hlong
  have hcut : (body.length : Int) - macSize = ((body.length - macSize : Nat) : Int) :=
    (Int.ofNat_sub (by simp only [macSize]; omega)).symm
  have hiv : ((body.take (ivOffset + ivLength)).drop ivOffset).length = ivLength := by
    rw [List.length_drop, List.length_take, Nat.min_eq_left (by simp only [ivOffset, ivLength]; omega)]
    rfl
  have hmac : (body.drop (body.length - macSize)).length = macSize := by
    rw [List.length_drop]
    simp only [macSize]
    omega
  have hcipher : (body.length : Int) - cipherKeySize = ((body.length - cipherKeySize : Nat) : Int) := hcut
  rw [decryptBody, hver, hcut, hcipher,
    slice_of_le (Nat.le_add_right _ _) (by simp only [ivOffset, ivLength]; omega), slice_drop (Nat.sub_le _ _),
    slice_of_le (by simp only [ciphertextOffset, ivOffset, ivLength, cipherKeySize]; omega) (Nat.sub_le _ _),
    slice_take (Nat.sub_le _ _)]
  simp only [Option.elim_some, panicking, Except.mapError, bind, Except.bind, hmac, hiv, ne_eq, not_true_eq_false,
    if_false]
  cases c.agree masterEphemeral with
  | none => rfl
  | some agreement => rfl

-- The IV is one block, and the ciphertext is what lies between 17 bytes at the front and 32 at the end.
theorem decryptCipherText_panics {panic : Panic} (agreement : Bytes)
    (hlong : ciphertextOffset + cipherKeySize + macSize ≤ body.length) :
    decryptCipherText c agreement ((body.take (ivOffset + ivLength)).drop ivOffset)
        ((body.take (body.length - cipherKeySize)).drop ciphertextOffset) = .error (.panic panic) ↔
      body.length % 16 ≠ 1 ∧ panic = .notFullBlocks := by
  have hbound : 81 ≤ body.length := hlong
  have hiv : ((body.take (ivOffset + ivLength)).drop ivOffset).length = aesBlockSize := by
    rw [List.length_drop, List.length_take, Nat.min_eq_left (by simp only [ivOffset, ivLength]; omega)]
    rfl
  have hlen : ((body.take (body.length - cipherKeySize)).drop ciphertextOffset).length = body.length - 49 := by
    rw [List.length_drop, List.length_take, Nat.min_eq_left (Nat.sub_le _ _)]
    exact Nat.sub_sub _ _ _
  rw [decryptCipherText, decryptCBC, if_neg (not_not.mpr hiv), hlen]
  by_cases hfull : (body.length - 49) % aesBlockSize = 0
  · have hone : body.length % 16 = 1 := by
      simp only [aesBlockSize] at hfull
      omega
    rw [if_neg (not_not.mpr hfull)]
    refine iff_of_false ?_ fun h => h.1 hone
    simp only [panicking, Except.mapError, bind, Except.bind]
    split
    · simp
    · split <;> simp
  · have hrest : body.length % 16 ≠ 1 := by
      simp only [aesBlockSize] at hfull
      omega
    rw [if_pos hfull]
    simp [panicking, Except.mapError, bind, Except.bind, hrest, eq_comm]

theorem decrypt_panics {publicKey : Bytes} {body : Option Bytes} {panic : Panic} :
    decrypt c publicKey body = .error (.panic panic) ↔
      (∃ b, body = some b ∧ Authentic c publicKey b ∧ b.length % 16 ≠ 1) ∧ panic = .notFullBlocks := by
  unfold decrypt Authentic
  cases c.deserializePublicKey publicKey with
  | none => simp
  | some masterEphemeral =>
    cases body with
    | none => simp
    | some body =>
      by_cases hlong : ciphertextOffset + cipherKeySize + macSize ≤ body.length
      swap
      · simp [Nat.not_le.mp hlong, hlong]
      dsimp only
      rw [if_neg (Nat.not_lt.mpr hlong)]
      by_cases hver : body.head? = some 1
      swap
      · -- A body that is long enough has a first byte.
        cases body with
        | nil => exact absurd hlong (by decide)
        | cons version rest =>
          have hother : version ≠ 1 := fun h => hver (congrArg some h)
          simp [decryptBody, bind, Except.bind, hother]
      rw [decryptBody_eq masterEphemeral hlong hver]
      cases hagree : c.agree masterEphemeral with
      | none => simp [hagree]
      | some agreement =>
        by_cases hmac : validMAC c agreement body = true
        · simp [hagree, hmac, decryptCipherText_panics agreement hlong, hlong, hver]
        · simp [hagree, hmac]

end Panics

theorem isPadding_iff {data : Bytes} (hpad : Padded 255 data) :
    (∃ plaintext, data = pad 16 plaintext) ↔ data.length % 16 = 0 ∧ (lastByte data).toNat ≤ 16 := by
  constructor
  · rintro ⟨plaintext, rfl⟩
    rw [length_pad plaintext (by decide), pad, lastByte_append_padding _ (by omega),
      UInt8.toNat_ofNat']
    omega
  · rintro ⟨hblocks, hlast⟩
    obtain ⟨hpos, -, hdrop⟩ := hpad
    have hlen := congrArg List.length hdrop
    rw [UInt8.lt_iff_toNat_lt] at hpos
    rw [List.length_drop, length_padding] at hlen
    have hrest : 16 - (data.take (contentLength data)).length % 16 = (lastByte data).toNat := by
      rw [List.length_take, Nat.min_eq_left (contentLength_le data)]
      omega
    refine ⟨data.take (contentLength data), ?_⟩
    rw [pad, hrest, ← hdrop, List.take_append_drop]

-- Only CryptBlocks can panic, on an authentic body that is not in full blocks. What is padded to blocks of 16 bytes is
-- unpadded, and what else is accepted is every padding of up to 255 bytes.
theorem provisioning_decrypt_iff :
    (∀ publicKey body, (∀ panic, decrypt c publicKey body ≠ .error (.panic panic)) ↔
      ¬∃ b, body = some b ∧ Authentic c publicKey b ∧ b.length % 16 ≠ 1) ∧
    (∀ plaintext, unpadPKCS7 (pad 16 plaintext) = some plaintext) ∧
    ∀ data, ((unpadPKCS7 data).isSome → ∃ plaintext, data = pad 16 plaintext) ↔
      (Padded 255 data → data.length % 16 = 0 ∧ (lastByte data).toNat ≤ 16) := by
  refine ⟨fun publicKey body => ?_, fun plaintext => ?_, fun data => ?_⟩
  · constructor
    · intro hnever hbody
      exact hnever .notFullBlocks (decrypt_panics.mpr ⟨hbody, rfl⟩)
    · intro hcond panic h
      exact hcond (decrypt_panics.mp h).1
  · rw [unpadPKCS7_eq]
    exact unpad_append_padding plaintext (by omega) (by omega) (by decide)
  · rw [unpadPKCS7_eq, unpad]
    by_cases hpad : Padded 255 data
    · rw [if_pos hpad, isPadding_iff hpad]
      simp [hpad]
    · simp [hpad]

def sampleCipher : Cipher where
  PublicKey := Bytes
  Message := Bytes
  deserializePublicKey := some
  agree := some
  hkdf _ := List.replicate 64 0
  crypto := sampleCrypto
  unmarshal := some

-- The MAC holds, but CryptBlocks gets part of a block. unpadPKCS7 accepts what padding never gives.
theorem partial_block_panics :
    decrypt sampleCipher [] (some (1 :: List.replicate 49 0 ++ List.replicate 32 1)) =
      .error (.panic .notFullBlocks) ∧
    unpadPKCS7 [1] = some [] ∧ ∀ plaintext, [1] ≠ pad 16 plaintext := by
  refine ⟨by rfl, by rfl, fun plaintext heq => ?_⟩
  have hlen := congrArg List.length heq
  rw [length_pad plaintext (by decide), List.length_singleton] at hlen
  omega

end MautrixSignal.Provisioning
