import Mathlib.Data.List.Basic

namespace MautrixSignal.Lib

-- What makes a Go program panic or die, by itself or in the standard library.
inductive Panic
  | nilDereference
  | indexOutOfRange
  | sliceBounds
  | makeSliceLength
  | arrayConversion
  | stackOverflow
  | ivLength
  | notFullBlocks
  -- a call of panic
  | raised
deriving DecidableEq

variable {α : Type}

-- data[start:stop]. The capacity behind the length is not relied on.
def slice (data : List α) (start stop : Int) : Except Panic (List α) :=
  if 0 ≤ start ∧ start ≤ stop ∧ stop ≤ data.length then .ok ((data.take stop.toNat).drop start.toNat)
  else .error .sliceBounds

variable {data : List α}

theorem slice_of_le {start stop : Nat} (hstart : start ≤ stop) (hstop : stop ≤ data.length) :
    slice data start stop = .ok ((data.take stop).drop start) :=
  if_pos ⟨Int.natCast_nonneg start, Int.ofNat_le.mpr hstart, Int.ofNat_le.mpr hstop⟩

theorem slice_take {stop : Nat} (hstop : stop ≤ data.length) : slice data 0 stop = .ok (data.take stop) :=
  slice_of_le (Nat.zero_le stop) hstop

theorem slice_drop {start : Nat} (hstart : start ≤ data.length) :
    slice data start data.length = .ok (data.drop start) := by
  rw [slice_of_le hstart (Nat.le_refl _), List.take_length]

theorem slice_of_neg {start stop : Int} (h : start < 0 ∨ stop < 0) : slice data start stop = .error .sliceBounds :=
  if_neg fun hbounds => by omega

theorem take_succ_set {a : α} {i : Nat} (h : i < data.length) : (data.set i a).take (i + 1) = data.take i ++ [a] := by
  have hlen : i < (data.set i a).length := by
    rw [List.length_set]
    exact h
  rw [List.take_succ_eq_append_getElem hlen, List.take_set_of_le (Nat.le_refl i), List.getElem_set_self]

-- A loop that overwrites the elements from i to the end one by one.
theorem foldl_set (data : List α) (a : α) (i count : Nat) (h : i + count = data.length) :
    (List.range' i count).foldl (fun data i => data.set i a) data = data.take i ++ List.replicate count a := by
  induction count generalizing i data with
  | zero =>
    have hi : data.length ≤ i := by omega
    rw [List.take_of_length_le hi, List.replicate_zero, List.append_nil]
    rfl
  | succ count ih =>
    have hset : i + 1 + count = (data.set i a).length := by
      rw [List.length_set]
      omega
    rw [List.range'_succ, List.foldl_cons, ih _ _ hset, take_succ_set (by omega), List.append_assoc,
      List.singleton_append, ← List.replicate_succ]

end MautrixSignal.Lib
