import MautrixSignal.Identifiers
import MautrixSignal.Lib.Slice

namespace MautrixSignal.Padding

open List

def blockSize : Nat := 160

inductive PaddingError
  | unknownVersion (version : UInt32)
  | positionExceedsBlock
  | invalidPadding
  | noTerminator (length : Nat)

-- Sets the terminator and, one by one, the bytes behind it.
def padBlock (block : Bytes) (pos : Nat) : Except PaddingError Bytes :=
  if pos ≥ block.length then .error .positionExceedsBlock
  else
    .ok ((List.range' (pos + 1) (block.length - (pos + 1))).foldl (fun block i => block.set i 0)
      (block.set pos 0x80))

def addPadding (version : UInt32) (contents : Bytes) : Except PaddingError Bytes :=
  if version < 2 then .error (.unknownVersion version)
  else if version = 2 then .ok contents
  else
    let messageLengthWithTerminator := contents.length + 1
    let messagePartCount := messageLengthWithTerminator / blockSize +
      if messageLengthWithTerminator % blockSize ≠ 0 then 1 else 0
    let messageLengthWithPadding := messagePartCount * blockSize
    padBlock (contents ++ (List.replicate messageLengthWithPadding 0).drop contents.length) contents.length

def stripFrom (contents : Bytes) : Nat → Except PaddingError Bytes
  | 0 => .error (.noTerminator contents.length)
  | i + 1 =>
    if contents[i]? = some 0x80 then .ok (contents.take i)
    else if contents[i]? ≠ some 0x00 then .error .invalidPadding
    else stripFrom contents i

def stripPadding (contents : Bytes) : Except PaddingError Bytes :=
  stripFrom contents contents.length

theorem padBlock_eq (front back : Bytes) (b : UInt8) :
    padBlock (front ++ b :: back) front.length = .ok (front ++ 0x80 :: List.replicate back.length 0) := by
  have hlen : (front ++ b :: back).length = front.length + 1 + back.length := by
    rw [length_append, length_cons]
    omega
  have hset : (front ++ b :: back).set front.length 0x80 = (front ++ [0x80]) ++ back := by
    rw [set_append_right _ _ (Nat.le_refl _), Nat.sub_self, set_cons_zero, append_assoc]
    rfl
  have hfront : (front ++ [(0x80 : UInt8)]).length = front.length + 1 := by
    rw [length_append, length_singleton]
  rw [padBlock, if_neg (by omega), hset, hlen, Nat.add_sub_cancel_left,
    Lib.foldl_set _ _ _ _ (by rw [length_append, hfront]), ← hfront, take_left,
    append_assoc]
  rfl

theorem addPadding_three (contents : Bytes) : ∃ parts zeros, contents.length + 1 + zeros = (parts + 1) * blockSize ∧
    addPadding 3 contents = .ok (contents ++ 0x80 :: List.replicate zeros 0) := by
  obtain ⟨parts, hcount⟩ : ∃ parts, (contents.length + 1) / blockSize +
      (if (contents.length + 1) % blockSize ≠ 0 then 1 else 0) = parts + 1 := by
    refine Nat.exists_eq_add_one.mpr ?_
    unfold blockSize
    split <;> omega
  have hfits : contents.length + 1 ≤ (parts + 1) * blockSize := by
    unfold blockSize at hcount ⊢
    split at hcount <;> omega
  obtain ⟨zeros, hzeros⟩ := Nat.exists_eq_add_of_le hfits
  refine ⟨parts, zeros, hzeros.symm, ?_⟩
  have hdrop : (List.replicate ((parts + 1) * blockSize) (0 : UInt8)).drop contents.length =
      0 :: List.replicate zeros 0 := by
    rw [drop_replicate, hzeros, Nat.add_assoc, Nat.add_sub_cancel_left, Nat.add_comm 1, replicate_succ]
  have hpad := padBlock_eq contents (List.replicate zeros 0) 0
  rw [length_replicate, ← hdrop, ← hcount] at hpad
  exact hpad

-- The scan goes back over the zero bytes, and the terminator ends it, whatever the bytes before that are.
theorem stripFrom_padded (content : Bytes) {i zeros : Nat} (hi : i ≤ zeros) :
    stripFrom (content ++ 0x80 :: List.replicate zeros 0) (content.length + 1 + i) = .ok content := by
  induction i with
  | zero =>
    have hterm : (content ++ 0x80 :: List.replicate zeros (0 : UInt8))[content.length]? = some 0x80 := by
      rw [getElem?_append_right (Nat.le_refl _), Nat.sub_self]
      rfl
    rw [stripFrom, if_pos hterm, take_left]
  | succ i ih =>
    have hzero : (content ++ 0x80 :: List.replicate zeros (0 : UInt8))[content.length + 1 + i]? = some 0x00 := by
      rw [getElem?_append_right (by omega), Nat.add_assoc, Nat.add_sub_cancel_left, Nat.add_comm 1,
        getElem?_cons_succ, getElem?_replicate, if_pos (by omega)]
    rw [← Nat.add_assoc, stripFrom, hzero, if_neg (by decide), if_neg (by simp)]
    exact ih (by omega)

theorem accepted_of_stripFrom {accepted content : Bytes} {i zeros : Nat} (h : stripFrom accepted i = .ok content)
    (hzeros : accepted.drop i = List.replicate zeros 0) :
    ∃ zeros, accepted = content ++ 0x80 :: List.replicate zeros 0 := by
  induction i generalizing zeros with
  | zero => cases h
  | succ i ih =>
    rw [stripFrom] at h
    split_ifs at h with hterm hzero
    · cases h
      obtain ⟨hi, hbyte⟩ := List.getElem?_eq_some_iff.mp hterm
      refine ⟨zeros, ?_⟩
      rw [← hzeros, ← hbyte, ← drop_eq_getElem_cons hi, take_append_drop]
    · obtain ⟨hi, hbyte⟩ := List.getElem?_eq_some_iff.mp (not_not.mp hzero)
      have hdrop : accepted.drop i = List.replicate (zeros + 1) 0 := by
        rw [drop_eq_getElem_cons hi, hbyte, hzeros, replicate_succ]
      exact ih h hdrop

theorem stripPadding_eq_ok_iff (accepted content : Bytes) :
    stripPadding accepted = .ok content ↔ ∃ zeros, accepted = content ++ 0x80 :: List.replicate zeros 0 := by
  constructor
  · intro h
    have hdrop : accepted.drop accepted.length = List.replicate 0 0 := drop_length
    exact accepted_of_stripFrom h hdrop
  · rintro ⟨zeros, rfl⟩
    have hlen : (content ++ 0x80 :: List.replicate zeros (0 : UInt8)).length = content.length + 1 + zeros := by
      rw [length_append, length_cons, length_replicate]
      omega
    rw [stripPadding, hlen]
    exact stripFrom_padded content (Nat.le_refl zeros)

-- Stripping takes back the padding of every message, and accepts just what ends in 0x80 and zeros.
theorem padding_round_trip : (∀ contents, ∃ padded parts, addPadding 3 contents = .ok padded ∧
      padded.length = (parts + 1) * 160 ∧ stripPadding padded = .ok contents) ∧
    ∀ accepted content, stripPadding accepted = .ok content ↔
      ∃ zeros, accepted = content ++ 0x80 :: List.replicate zeros 0 := by
  refine ⟨fun contents => ?_, stripPadding_eq_ok_iff⟩
  obtain ⟨parts, zeros, hlen, hpad⟩ := addPadding_three contents
  refine ⟨_, parts, hpad, ?_, (stripPadding_eq_ok_iff _ contents).mpr ⟨zeros, rfl⟩⟩
  rw [length_append, length_cons, length_replicate]
  unfold blockSize at hlen
  omega

end MautrixSignal.Padding
