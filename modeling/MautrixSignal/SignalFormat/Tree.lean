import Mathlib.Data.Int.Basic
import Mathlib.Data.List.Basic
import Mathlib.Tactic.SplitIfs

namespace MautrixSignal.SignalFormat

-- Positions and lengths are in UTF-16 code units.
structure BodyRange (ν : Type) where
  start : Int
  length : Int
  value : ν
deriving DecidableEq

namespace BodyRange

variable {ν : Type} {b n : BodyRange ν}

def stop (b : BodyRange ν) : Int := b.start + b.length

def offset (b : BodyRange ν) (offset : Int) : BodyRange ν := { b with start := b.start + offset }

def truncateStart (b : BodyRange ν) (startAt : Int) : BodyRange ν :=
  if b.start < startAt then { b with start := startAt, length := b.length - (startAt - b.start) } else b

def truncateEnd (b : BodyRange ν) (maxEnd : Int) : BodyRange ν :=
  if b.stop > maxEnd then { b with length := maxEnd - b.start } else b

def Covers (b : BodyRange ν) (i : Int) : Prop := b.start ≤ i ∧ i < b.stop

instance (b : BodyRange ν) (i : Int) : Decidable (b.Covers i) := inferInstanceAs (Decidable (_ ∧ _))

structure Inside (b : BodyRange ν) (size : Int) : Prop where
  start_nonneg : 0 ≤ b.start
  length_nonneg : 0 ≤ b.length
  stop_le : b.stop ≤ size

def covering (ranges : List (BodyRange ν)) (i : Int) : List ν :=
  (ranges.filter fun b => b.Covers i).map BodyRange.value

section

variable (b : BodyRange ν)

@[simp] theorem offset_start (by' : Int) : (b.offset by').start = b.start + by' := rfl
@[simp] theorem offset_length (by' : Int) : (b.offset by').length = b.length := rfl
@[simp] theorem offset_value (by' : Int) : (b.offset by').value = b.value := rfl

theorem offset_stop (by' : Int) : (b.offset by').stop = b.stop + by' := by
  simp only [stop, offset]
  omega

@[simp] theorem truncateStart_value (p : Int) : (b.truncateStart p).value = b.value := by
  unfold truncateStart
  split_ifs <;> rfl

@[simp] theorem truncateEnd_value (p : Int) : (b.truncateEnd p).value = b.value := by
  unfold truncateEnd
  split_ifs <;> rfl

@[simp] theorem truncateEnd_start (p : Int) : (b.truncateEnd p).start = b.start := by
  unfold truncateEnd
  split_ifs <;> rfl

theorem truncateStart_start (p : Int) : (b.truncateStart p).start = max b.start p := by
  unfold truncateStart
  split_ifs with h
  · exact (Int.max_eq_right (Int.le_of_lt h)).symm
  · exact (Int.max_eq_left (Int.not_lt.mp h)).symm

theorem truncateStart_stop (p : Int) : (b.truncateStart p).stop = b.stop := by
  unfold truncateStart
  split_ifs
  · simp only [stop]
    omega
  · rfl

theorem truncateEnd_stop (p : Int) : (b.truncateEnd p).stop = min b.stop p := by
  unfold truncateEnd
  split_ifs with h
  · simp only [stop] at h ⊢
    omega
  · exact (Int.min_eq_left (Int.not_lt.mp h)).symm

end

-- The part of a range behind a node, and the part in it, with the positions that the node's sibling and child use.
def behind (b n : BodyRange ν) : BodyRange ν := (b.truncateStart n.stop).offset (-n.stop)
def within (b n : BodyRange ν) : BodyRange ν := (b.truncateEnd n.stop).offset (-n.start)

section

variable (b n : BodyRange ν)

@[simp] theorem behind_value : (b.behind n).value = b.value := truncateStart_value b n.stop
@[simp] theorem within_value : (b.within n).value = b.value := truncateEnd_value b n.stop

theorem behind_start : (b.behind n).start = max (b.start - n.stop) 0 := by
  rw [behind, offset_start, truncateStart_start]
  omega

theorem behind_stop : (b.behind n).stop = b.stop - n.stop := by
  rw [behind, offset_stop, truncateStart_stop]
  omega

theorem within_start : (b.within n).start = b.start - n.start := by
  rw [within, offset_start, truncateEnd_start]
  omega

theorem within_stop : (b.within n).stop = min b.stop n.stop - n.start := by
  rw [within, offset_stop, truncateEnd_stop]
  omega

end

theorem covers_behind {i : Int} (hi : n.stop ≤ i) : (b.behind n).Covers (i - n.stop) ↔ b.Covers i := by
  rw [Covers, Covers, behind_start, behind_stop]
  omega

theorem covers_within {i : Int} (hi : i < n.stop) : (b.within n).Covers (i - n.start) ↔ b.Covers i := by
  rw [Covers, Covers, within_start, within_stop]
  omega

theorem Inside.behind {size : Int} (h : b.Inside size) (hlater : n.stop ≤ b.stop) :
    (b.behind n).Inside (size - n.stop) := by
  have hlen : (b.behind n).length = (b.behind n).stop - (b.behind n).start := by simp only [stop]; omega
  obtain ⟨hstart, hnonneg, hstop⟩ := h
  have hstop' : b.stop = b.start + b.length := rfl
  refine ⟨?_, ?_, ?_⟩
  · rw [behind_start]
    omega
  · rw [hlen, behind_start, behind_stop]
    omega
  · rw [behind_stop]
    omega

theorem Inside.within {size : Int} (h : b.Inside size) (hstart : n.start ≤ b.start)
    (hinner : b.start < n.stop) : (b.within n).Inside n.length := by
  have hlen : (b.within n).length = (b.within n).stop - (b.within n).start := by simp only [stop]; omega
  obtain ⟨-, hnonneg, -⟩ := h
  have hstop : b.stop = b.start + b.length := rfl
  have hnode : n.stop = n.start + n.length := rfl
  refine ⟨?_, ?_, ?_⟩
  · rw [within_start]
    omega
  · rw [hlen, within_start, within_stop]
    omega
  · rw [within_stop]
    omega

end BodyRange

-- A nil tree and a tree without a node are treated alike.
inductive LinkedRangeTree (ν : Type)
  | nil
  | node (range : BodyRange ν) (sibling child : LinkedRangeTree ν)

namespace LinkedRangeTree

variable {ν : Type} {t : LinkedRangeTree ν} {r : BodyRange ν}

-- The positions in a child count from the start of its node, those in a sibling from the node's end.
def add : LinkedRangeTree ν → BodyRange ν → LinkedRangeTree ν
  | .nil, r => .node r .nil .nil
  | .node n sibling child, r =>
    if r.start ≥ n.stop then .node n (sibling.add (r.offset (-n.stop))) child
    else
      .node n
        (if r.stop > n.stop then sibling.add ((r.truncateStart n.stop).offset (-n.stop)) else sibling)
        (child.add ((r.truncateEnd n.stop).offset (-n.start)))

-- Every slice that rendering takes of a text of this length is within it.
def Fits : LinkedRangeTree ν → Int → Prop
  | .nil, _ => True
  | .node n sibling child, size => n.Inside size ∧ sibling.Fits (size - n.stop) ∧ child.Fits n.length

-- No node that a range from this position on can meet starts after it.
def Reaches : LinkedRangeTree ν → Int → Prop
  | .nil, _ => True
  | .node n sibling child, p =>
    n.start ≤ p ∧ sibling.Reaches (max (p - n.stop) 0) ∧ child.Reaches (p - n.start)

def values : LinkedRangeTree ν → Int → List ν
  | .nil, _ => []
  | .node n sibling child, i =>
    if i < n.start then []
    else if i < n.stop then n.value :: child.values (i - n.start)
    else sibling.values (i - n.stop)

theorem Reaches.mono {p q : Int} (h : t.Reaches p) (hle : p ≤ q) : t.Reaches q := by
  induction t generalizing p q with
  | nil => trivial
  | node n sibling child ihSibling ihChild =>
    obtain ⟨hstart, hsib, hchild⟩ := h
    exact ⟨by omega, ihSibling hsib (by omega), ihChild hchild (by omega)⟩

theorem add_node (n : BodyRange ν) (sibling child : LinkedRangeTree ν) (r : BodyRange ν) :
    (node n sibling child).add r =
      .node n (if r.start ≥ n.stop ∨ r.stop > n.stop then sibling.add (r.behind n) else sibling)
        (if r.start < n.stop then child.add (r.within n) else child) := by
  rw [add]
  by_cases hafter : r.start ≥ n.stop
  · have hwhole : r.truncateStart n.stop = r := if_neg (by omega)
    rw [if_pos hafter, if_pos (.inl hafter), if_neg (by omega), BodyRange.behind, hwhole]
  · rw [if_neg hafter, if_pos (show r.start < n.stop by omega)]
    simp only [hafter, false_or]
    rfl

theorem Reaches.add (h : t.Reaches r.start) : (t.add r).Reaches r.start := by
  induction t generalizing r with
  | nil => exact ⟨Int.le_refl _, trivial, trivial⟩
  | node n sibling child ihSibling ihChild =>
    obtain ⟨hstart, hsib, hchild⟩ := h
    rw [← BodyRange.behind_start] at hsib
    rw [← BodyRange.within_start] at hchild
    rw [add_node]
    refine ⟨hstart, ?_, ?_⟩
    · rw [← BodyRange.behind_start]
      split_ifs
      · exact ihSibling hsib
      · exact hsib
    · rw [← BodyRange.within_start]
      split_ifs
      · exact ihChild hchild
      · exact hchild

theorem Fits.add {size : Int} (h : t.Fits size) (hreaches : t.Reaches r.start) (hinside : r.Inside size) :
    (t.add r).Fits size := by
  induction t generalizing r size with
  | nil => exact ⟨hinside, trivial, trivial⟩
  | node n sibling child ihSibling ihChild =>
    obtain ⟨hnode, hsib, hchild⟩ := h
    obtain ⟨hstart, hreachesSibling, hreachesChild⟩ := hreaches
    rw [← BodyRange.behind_start] at hreachesSibling
    rw [← BodyRange.within_start] at hreachesChild
    rw [add_node]
    refine ⟨hnode, ?_, ?_⟩
    · split_ifs with hbehind
      · have hlater : n.stop ≤ r.stop := by
          have hlen := hinside.length_nonneg
          have hstop : r.stop = r.start + r.length := rfl
          omega
        exact ihSibling hsib hreachesSibling (hinside.behind hlater)
      · exact hsib
    · split_ifs with hinner
      · exact ihChild hchild hreachesChild (hinside.within hstart hinner)
      · exact hchild

-- The value of an added range comes innermost at the positions it covers, and nothing else changes.
theorem values_add (hreaches : t.Reaches r.start) (i : Int) :
    (t.add r).values i = t.values i ++ if r.Covers i then [r.value] else [] := by
  induction t generalizing r i with
  | nil =>
    simp only [add, values, List.nil_append]
    by_cases hbef : i < r.start
    · rw [if_pos hbef, if_neg fun hcov => absurd hcov.1 (by omega)]
    · by_cases hin : i < r.stop
      · rw [if_neg hbef, if_pos hin, if_pos ⟨by omega, hin⟩]
      · rw [if_neg hbef, if_neg hin, if_neg fun hcov => hin hcov.2]
  | node n sibling child ihSibling ihChild =>
    obtain ⟨hstart, hreachesSibling, hreachesChild⟩ := hreaches
    rw [← BodyRange.behind_start] at hreachesSibling
    rw [← BodyRange.within_start] at hreachesChild
    rw [add_node]
    simp only [values]
    by_cases hbef : i < n.start
    · rw [if_pos hbef, if_pos hbef, if_neg fun hcov => absurd hcov.1 (by omega)]
      rfl
    rw [if_neg hbef, if_neg hbef]
    by_cases hin : i < n.stop
    · rw [if_pos hin, if_pos hin]
      by_cases hinner : r.start < n.stop
      · rw [if_pos hinner, ihChild hreachesChild]
        simp [BodyRange.covers_within hin]
      · rw [if_neg hinner, if_neg fun hcov => absurd hcov.1 (by omega), List.append_nil]
    · rw [if_neg hin, if_neg hin]
      by_cases hbehind : r.start ≥ n.stop ∨ r.stop > n.stop
      · rw [if_pos hbehind, ihSibling hreachesSibling]
        simp [BodyRange.covers_behind (by omega : n.stop ≤ i)]
      · rw [if_neg hbehind, if_neg fun hcov => absurd hcov.2 (by omega), List.append_nil]

def addAll (t : LinkedRangeTree ν) (ranges : List (BodyRange ν)) : LinkedRangeTree ν := ranges.foldl add t

theorem addAll_spec {ranges : List (BodyRange ν)} {size : Int} (hfits : t.Fits size)
    (hreaches : ∀ r ∈ ranges, t.Reaches r.start) (hinside : ∀ r ∈ ranges, r.Inside size)
    (hsorted : ranges.Pairwise fun a b => a.start ≤ b.start) :
    (t.addAll ranges).Fits size ∧ ∀ i, (t.addAll ranges).values i = t.values i ++ BodyRange.covering ranges i := by
  induction ranges generalizing t with
  | nil => exact ⟨hfits, fun i => (List.append_nil _).symm⟩
  | cons r rest ih =>
    obtain ⟨hfirst, hrest⟩ := List.pairwise_cons.mp hsorted
    have hr := hreaches r List.mem_cons_self
    have hnext : ∀ b ∈ rest, (t.add r).Reaches b.start := fun b hb => hr.add.mono (hfirst b hb)
    obtain ⟨hfits', hvals⟩ := ih (hfits.add hr (hinside r List.mem_cons_self)) hnext
      (fun b hb => hinside b (List.mem_cons_of_mem _ hb)) hrest
    refine ⟨hfits', fun i => (hvals i).trans ?_⟩
    rw [values_add hr, List.append_assoc]
    unfold BodyRange.covering
    by_cases hcov : r.Covers i
    · rw [if_pos hcov, List.filter_cons_of_pos (by simpa using hcov)]
      rfl
    · rw [if_neg hcov, List.filter_cons_of_neg (by simpa using hcov)]
      rfl

end LinkedRangeTree

end MautrixSignal.SignalFormat
