import Mathlib.Data.List.Basic

namespace MautrixSignal.Lib.Cbc

def xorBytes (a b : List UInt8) : List UInt8 := List.zipWith (· ^^^ ·) a b

theorem length_xorBytes {a b : List UInt8} {size : Nat} (ha : a.length = size) (hb : b.length = size) :
    (xorBytes a b).length = size := by
  rw [xorBytes, List.length_zipWith, ha, hb, Nat.min_self]

theorem xorBytes_twice {a b : List UInt8} (h : a.length = b.length) : xorBytes (xorBytes a b) b = a := by
  induction a generalizing b with
  | nil => rfl
  | cons x a ih =>
    cases b with
    | nil => cases h
    | cons y b =>
      have hbyte : x ^^^ y ^^^ y = x := by
        rw [UInt8.xor_assoc, UInt8.xor_self, UInt8.xor_zero]
      have htail := ih (Nat.succ.inj h)
      simp only [xorBytes, List.zipWith_cons_cons, hbyte] at htail ⊢
      rw [htail]

variable (size : Nat) (cipher : List UInt8 → List UInt8)

def encryptBlocks : Nat → List UInt8 → List UInt8 → List UInt8
  | 0, _, _ => []
  | n + 1, iv, data =>
    let block := cipher (xorBytes (data.take size) iv)
    block ++ encryptBlocks n block (data.drop size)

def decryptBlocks : Nat → List UInt8 → List UInt8 → List UInt8
  | 0, _, _ => []
  | n + 1, iv, data =>
    xorBytes (cipher (data.take size)) iv ++ decryptBlocks n (data.take size) (data.drop size)

def chained : Nat → List UInt8 → List UInt8 → List UInt8
  | 0, iv, _ => iv
  | n + 1, _, data => chained n (data.take size) (data.drop size)

variable {size cipher}

theorem length_take_block {n : Nat} {data : List UInt8} (h : (n + 1) * size ≤ data.length) :
    (data.take size).length = size := by
  rw [List.length_take, Nat.min_eq_left]
  exact Nat.le_trans (Nat.le_mul_of_pos_left size (Nat.succ_pos n)) h

theorem length_drop_block {n : Nat} {data : List UInt8} (h : (n + 1) * size ≤ data.length) :
    n * size ≤ (data.drop size).length := by
  rw [List.length_drop]
  rw [Nat.succ_mul] at h
  exact Nat.le_sub_of_add_le h

section Length

variable (hcipher : ∀ block : List UInt8, block.length = size → (cipher block).length = size)
include hcipher

section

variable {n : Nat} {iv data : List UInt8} (hiv : iv.length = size) (hdata : n * size ≤ data.length)

include hiv hdata

theorem length_encryptBlocks : (encryptBlocks size cipher n iv data).length = n * size := by
  induction n generalizing iv data with
  | zero => rw [Nat.zero_mul]; rfl
  | succ n ih =>
    have hblock := hcipher _ (length_xorBytes (length_take_block hdata) hiv)
    rw [encryptBlocks, List.length_append, hblock, ih hblock (length_drop_block hdata), Nat.succ_mul,
      Nat.add_comm]

theorem length_decryptBlocks : (decryptBlocks size cipher n iv data).length = n * size := by
  induction n generalizing iv data with
  | zero => rw [Nat.zero_mul]; rfl
  | succ n ih =>
    have htake := length_take_block hdata
    have hblock := length_xorBytes (hcipher _ htake) hiv
    rw [decryptBlocks, List.length_append, hblock, ih htake (length_drop_block hdata), Nat.succ_mul,
      Nat.add_comm]

end

end Length

theorem length_chained {n : Nat} {iv data : List UInt8} (hiv : iv.length = size)
    (hdata : n * size ≤ data.length) : (chained size n iv data).length = size := by
  induction n generalizing iv data with
  | zero => exact hiv
  | succ n ih => exact ih (length_take_block hdata) (length_drop_block hdata)

theorem decryptBlocks_add (n m : Nat) (iv data : List UInt8) :
    decryptBlocks size cipher (n + m) iv data =
      decryptBlocks size cipher n iv data ++
        decryptBlocks size cipher m (chained size n iv data) (data.drop (n * size)) := by
  induction n generalizing iv data with
  | zero => rw [Nat.zero_add, Nat.zero_mul]; rfl
  | succ n ih =>
    rw [Nat.succ_add, decryptBlocks, decryptBlocks, ih, List.append_assoc, chained, List.drop_drop,
      Nat.succ_mul, Nat.add_comm size]

theorem decryptBlocks_take {n m : Nat} (iv data : List UInt8) (h : n * size ≤ m) :
    decryptBlocks size cipher n iv (data.take m) = decryptBlocks size cipher n iv data := by
  induction n generalizing iv data m with
  | zero => rfl
  | succ n ih =>
    rw [Nat.succ_mul] at h
    have hsize : min size m = size := Nat.min_eq_left (by omega)
    rw [decryptBlocks, decryptBlocks, List.take_take, hsize, List.drop_take, ih _ _ (by omega)]

theorem chained_take {n m : Nat} (iv data : List UInt8) (h : n * size ≤ m) :
    chained size n iv (data.take m) = chained size n iv data := by
  induction n generalizing iv data m with
  | zero => rfl
  | succ n ih =>
    rw [Nat.succ_mul] at h
    have hsize : min size m = size := Nat.min_eq_left (by omega)
    rw [chained, chained, List.take_take, hsize, List.drop_take, ih _ _ (by omega)]

theorem decryptBlocks_encryptBlocks {decipher : List UInt8 → List UInt8} {n : Nat} {iv data : List UInt8}
    (hcipher : ∀ block, block.length = size → (cipher block).length = size)
    (hinverse : ∀ block, block.length = size → decipher (cipher block) = block)
    (hiv : iv.length = size) (hdata : data.length = n * size) :
    decryptBlocks size decipher n iv (encryptBlocks size cipher n iv data) = data := by
  induction n generalizing iv data with
  | zero =>
    rw [Nat.zero_mul] at hdata
    exact (List.length_eq_zero_iff.mp hdata).symm
  | succ n ih =>
    have htake := length_take_block (Nat.le_of_eq hdata.symm)
    have hxor := length_xorBytes htake hiv
    have hblock := hcipher _ hxor
    have hrest : (data.drop size).length = n * size := by
      rw [List.length_drop, hdata, Nat.succ_mul, Nat.add_sub_cancel]
    rw [encryptBlocks, decryptBlocks, List.take_left' hblock, List.drop_left' hblock, hinverse _ hxor,
      xorBytes_twice (htake.trans hiv.symm), ih hblock hrest, List.take_append_drop]

end MautrixSignal.Lib.Cbc

namespace MautrixSignal.Lib.Pkcs7

def padding (n : Nat) : List UInt8 := List.replicate n (UInt8.ofNat n)

def pad (size : Nat) (data : List UInt8) : List UInt8 := data ++ padding (size - data.length % size)

variable (data : List UInt8)

def lastByte : UInt8 := data.getLast?.getD 0

def contentLength : Nat := data.length - (lastByte data).toNat

def Padded (size : Nat) (data : List UInt8) : Prop :=
  0 < lastByte data ∧ (lastByte data).toNat ≤ size ∧
    data.drop (contentLength data) = padding (lastByte data).toNat

instance (size : Nat) (data : List UInt8) : Decidable (Padded size data) :=
  inferInstanceAs (Decidable (_ ∧ _ ∧ _))

def unpad (size : Nat) (data : List UInt8) : Option (List UInt8) :=
  if Padded size data then some (data.take (contentLength data)) else none

variable {size : Nat}

theorem unpad_eq_some {data content : List UInt8} :
    unpad size data = some content ↔ Padded size data ∧ data.take (contentLength data) = content := by
  rw [unpad, Option.ite_none_right_eq_some, Option.some_inj]

theorem contentLength_le : contentLength data ≤ data.length := Nat.sub_le _ _

theorem lastByte_append_padding {n : Nat} (content : List UInt8) (hn : 0 < n) :
    lastByte (content ++ padding n) = UInt8.ofNat n := by
  obtain ⟨n, rfl⟩ := Nat.exists_eq_succ_of_ne_zero (Nat.ne_of_gt hn)
  rw [lastByte, padding, List.replicate_succ', ← List.append_assoc, List.getLast?_concat, Option.getD_some]

theorem length_padding (n : Nat) : (padding n).length = n := List.length_replicate

theorem unpad_append_padding {n : Nat} (content : List UInt8) (hn : 0 < n) (hsize : n ≤ size) (hbyte : size < 256) :
    unpad size (content ++ padding n) = some content := by
  have hlast : (lastByte (content ++ padding n)).toNat = n := by
    rw [lastByte_append_padding content hn, UInt8.toNat_ofNat']
    omega
  have hcont : contentLength (content ++ padding n) = content.length := by
    rw [contentLength, hlast, List.length_append, length_padding, Nat.add_sub_cancel]
  have hpos : 0 < lastByte (content ++ padding n) := by
    rw [UInt8.lt_iff_toNat_lt, hlast]
    exact hn
  have hpad : Padded size (content ++ padding n) := by
    refine ⟨hpos, Nat.le_trans (Nat.le_of_eq hlast) hsize, ?_⟩
    rw [hcont, hlast, List.drop_left]
  rw [unpad, if_pos hpad, hcont, List.take_left]

theorem length_pad (hsize : 0 < size) : (pad size data).length = (data.length / size + 1) * size := by
  have hmod := Nat.mod_lt data.length hsize
  have hdiv := Nat.div_add_mod data.length size
  rw [pad, List.length_append, length_padding, Nat.succ_mul, Nat.mul_comm]
  omega

theorem unpad_pad (hsize : 0 < size) (hbyte : size < 256) : unpad size (pad size data) = some data := by
  have hmod := Nat.mod_lt data.length hsize
  exact unpad_append_padding data (Nat.sub_pos_of_lt hmod) (Nat.sub_le _ _) hbyte

end MautrixSignal.Lib.Pkcs7
