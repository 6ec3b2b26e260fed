import MautrixSignal.MatrixFormat.EntityString

namespace MautrixSignal.SignalFormat.BodyRange

variable {ν : Type} {ranges : List (BodyRange ν)} {i : Int}

theorem covering_cons_of_covers {b : BodyRange ν} (h : b.Covers i) :
    covering (b :: ranges) i = b.value :: covering ranges i := by
  simp [covering, decide_eq_true h]

theorem covering_append (first second : List (BodyRange ν)) (i : Int) :
    covering (first ++ second) i = covering first i ++ covering second i := by
  simp [covering]

theorem covering_eq_nil (h : ∀ b ∈ ranges, ¬b.Covers i) : covering ranges i = [] := by
  have hnone : ranges.filter (fun b => decide (b.Covers i)) = [] :=
    List.filter_eq_nil_iff.mpr fun b hb => by simpa using h b hb
  rw [covering, hnone, List.map_nil]

theorem covering_filterMap {f : BodyRange ν → Option (BodyRange ν)} {j : Int}
    (hval : ∀ b ∈ ranges, ∀ c, f b = some c → c.value = b.value ∧ (c.Covers j ↔ b.Covers i))
    (hnone : ∀ b ∈ ranges, f b = none → ¬b.Covers i) : covering (ranges.filterMap f) j = covering ranges i := by
  induction ranges with
  | nil => rfl
  | cons b rest ih =>
    have hrest := ih (fun c hc => hval c (List.mem_cons_of_mem b hc))
      (fun c hc => hnone c (List.mem_cons_of_mem b hc))
    have hsplit : covering (b :: rest) i = covering [b] i ++ covering rest i := covering_append [b] rest i
    cases hb : f b with
    | none =>
      have hnot := hnone b List.mem_cons_self hb
      have hhead : covering [b] i = [] := covering_eq_nil (by simpa using hnot)
      rw [List.filterMap_cons_none hb, hsplit, hhead, hrest]
      rfl
    | some c =>
      obtain ⟨hsame, hcov⟩ := hval b List.mem_cons_self c hb
      have hhead : covering [c] j = covering [b] i := by
        by_cases h : b.Covers i
        · rw [covering_cons_of_covers h, covering_cons_of_covers (hcov.mpr h), hsame]
          rfl
        · have h' := mt hcov.mp h
          rw [covering_eq_nil (by simpa using h'), covering_eq_nil (by simpa using h)]
      rw [List.filterMap_cons_some hb, hsplit, ← hhead, ← hrest]
      exact covering_append [c] _ j

theorem covering_map {f : BodyRange ν → BodyRange ν} {j : Int}
    (h : ∀ b ∈ ranges, (f b).value = b.value ∧ ((f b).Covers j ↔ b.Covers i)) :
    covering (ranges.map f) j = covering ranges i := by
  rw [← List.filterMap_eq_map]
  refine covering_filterMap ?_ ?_
  · rintro b hb c hc
    cases hc
    exact h b hb
  · intro b _ hb
    cases hb

theorem covers_offset (b : BodyRange ν) (by' i : Int) : (b.offset by').Covers i ↔ b.Covers (i - by') := by
  rw [Covers, Covers, offset_start, offset_stop]
  omega

end MautrixSignal.SignalFormat.BodyRange

namespace MautrixSignal.MatrixFormat

open SignalFormat (BodyRange BodyRangeValue Style)
open SignalFormat.BodyRange List

namespace Element

def style (e : Element) : Option Style :=
  match e.tag with
  | .b | .strong | .header _ => some SignalFormat.styleBold
  | .i | .em => some SignalFormat.styleItalic
  | .s | .del | .strike => some SignalFormat.styleStrikethrough
  | .tt | .code => some SignalFormat.styleMonospace
  | .span => if (e.attributes.lookup "data-mx-spoiler").isSome then some SignalFormat.styleSpoiler else none
  | _ => none

end Element

def enclosingStyles (elements : List Element) : List BodyRangeValue := (elements.filterMap Element.style).map .style

-- The code element that starts a pre element is written as a fence.
def shownStyles (elements : List Element) : List BodyRangeValue :=
  enclosingStyles (elements.filter fun e => !e.isFence)

namespace EntityString

variable {e : BodyRange BodyRangeValue} {prevSplit j : Nat} {separator : EntityString}

-- The ranges are inside the string, and with the styles around the whole string they are the styles of its text.
-- None is empty where no element with a style is.
structure Good (filled : Prop) (around : List BodyRangeValue) (es : EntityString) : Prop where
  inside : ∀ e ∈ es.entities, e.Inside es.string.length ∧ (filled → 0 < e.length)
  covered : ∀ (i : Nat) u elements, es.string[i]? = some u → u.origin = some elements →
    shownStyles elements = around ++ covering es.entities i

variable {filled : Prop} {around : List BodyRangeValue} {es other : EntityString}

theorem good_empty : Good filled around {} := by
  refine ⟨fun e he => (nomatch he), fun i u elements hu => ?_⟩
  cases hu

theorem good_new (val : String) : Good filled around (new val) := by
  refine ⟨fun e he => (nomatch he), fun i u elements hu horigin => ?_⟩
  have hmem := mem_of_getElem? hu
  obtain ⟨code, -, rfl⟩ := mem_map.mp hmem
  cases horigin

theorem good_ofUnits (units : SignalFormat.UTF16String) (elements : List Element) :
    Good filled (shownStyles elements) (ofUnits units (some elements)) := by
  refine ⟨fun e he => (nomatch he), fun i u elements' hu horigin => ?_⟩
  have hmem := mem_of_getElem? hu
  obtain ⟨code, -, rfl⟩ := mem_map.mp hmem
  cases horigin
  exact (append_nil _).symm

theorem inside_offset {size : Nat} (h : e.Inside size) (before : Nat) :
    (e.offset before).Inside (before + size : Nat) := by
  obtain ⟨hstart, hlen, hstop⟩ := h
  refine ⟨?_, hlen, ?_⟩
  · rw [offset_start]
    omega
  · rw [offset_stop]
    omega

theorem inside_mono {size size' : Nat} (h : e.Inside size) (hle : size ≤ size') : e.Inside size' := by
  have hstop := h.stop_le
  exact ⟨h.start_nonneg, h.length_nonneg, by omega⟩

theorem Good.append (h : Good filled around es) (hother : Good filled around other) :
    Good filled around (es.append other) := by
  have hshift : ∀ i : Int, covering (other.entities.map fun e => e.offset es.string.length) i =
      covering other.entities (i - es.string.length) := fun i =>
    covering_map fun b _ => ⟨rfl, covers_offset b _ i⟩
  refine ⟨?_, ?_⟩
  · intro e he
    have hlen : (es.append other).string.length = es.string.length + other.string.length := length_append
    rw [hlen]
    rcases mem_append.mp he with he | he
    · exact ⟨inside_mono (h.inside e he).1 (Nat.le_add_right _ _), (h.inside e he).2⟩
    · obtain ⟨b, hb, rfl⟩ := mem_map.mp he
      exact ⟨inside_offset (hother.inside b hb).1 _, (hother.inside b hb).2⟩
  · intro i u elements hu horigin
    change shownStyles elements = around ++ covering (es.entities ++ other.entities.map _) i
    rw [covering_append, hshift]
    change (es.string ++ other.string)[i]? = some u at hu
    -- the ranges of the other part end before the position, or start behind it
    by_cases hi : i < es.string.length
    · rw [getElem?_append_left hi] at hu
      have hnone : covering other.entities ((i : Int) - es.string.length) = [] := by
        refine covering_eq_nil fun b hb hcov => ?_
        have hstart := (hother.inside b hb).1.start_nonneg
        have := hcov.1
        omega
      rw [hnone, append_nil]
      exact h.covered i u elements hu horigin
    · rw [getElem?_append_right (Nat.le_of_not_lt hi)] at hu
      have hnone : covering es.entities i = [] := by
        refine covering_eq_nil fun b hb hcov => ?_
        have hstop := (h.inside b hb).1.stop_le
        have := hcov.2
        omega
      have hcast : (i : Int) - es.string.length = (i - es.string.length : Nat) := by omega
      rw [hnone, nil_append, hcast]
      exact hother.covered _ u elements hu horigin

theorem Good.format {value : BodyRangeValue} (h : Good filled (around ++ [value]) es)
    (hne : filled → es.string ≠ []) : Good filled around (es.format value) := by
  refine ⟨?_, ?_⟩
  · intro e he
    rcases mem_cons.mp he with rfl | he
    · refine ⟨⟨Int.le_refl 0, Int.natCast_nonneg _, ?_⟩, fun hfilled => ?_⟩
      · rw [stop, Int.zero_add]
        exact Int.le_refl _
      · exact Int.natCast_pos.mpr (length_pos_iff.mpr (hne hfilled))
    · exact h.inside e he
  · intro i u elements hu horigin
    have hlt := (List.getElem?_eq_some_iff.mp hu).1
    have hcov : (BodyRange.mk 0 es.string.length value).Covers i := by
      refine ⟨Int.natCast_nonneg i, ?_⟩
      rw [stop, Int.zero_add]
      exact Int.ofNat_lt.mpr hlt
    have hbef := h.covered i u elements hu horigin
    rw [append_assoc] at hbef
    rw [hbef]
    exact congrArg (around ++ ·) (covering_cons_of_covers hcov).symm

variable {i : Nat}

theorem cutRange_some {b c : BodyRange BodyRangeValue} (h : cutRange prevSplit i b = some c) :
    c.value = b.value ∧ c.start = max b.start prevSplit - prevSplit ∧ c.stop = min b.stop i - prevSplit ∧
      0 < c.length := by
  unfold cutRange at h
  dsimp only at h
  split_ifs at h with hcond hpos
  cases h
  refine ⟨by rw [offset_value, truncateEnd_value, truncateStart_value], ?_, ?_, hpos⟩
  · rw [offset_start, truncateEnd_start, truncateStart_start]
    omega
  · rw [offset_stop, truncateEnd_stop, truncateStart_stop]
    omega

theorem cutRange_none {b : BodyRange BodyRangeValue} (hle : prevSplit ≤ i) (h : cutRange prevSplit i b = none) :
    min b.stop i ≤ max b.start prevSplit := by
  unfold cutRange at h
  dsimp only at h
  rw [if_pos (by omega)] at h
  split_ifs at h with hpos
  have hstop := truncateEnd_stop (b.truncateStart prevSplit) i
  rw [truncateStart_stop, stop, truncateEnd_start, truncateStart_start] at hstop
  rw [offset_length] at hpos
  omega

theorem length_cut (hi : i ≤ es.string.length) : (es.cut prevSplit i).string.length = i - prevSplit := by
  simp [EntityString.cut, Nat.min_eq_left hi]

theorem inside_cut (hle : prevSplit ≤ i) (hi : i ≤ es.string.length) :
    ∀ e ∈ (es.cut prevSplit i).entities, e.Inside (es.cut prevSplit i).string.length ∧ 0 < e.length := by
  intro e he
  obtain ⟨b, hb, hcut⟩ := mem_filterMap.mp he
  obtain ⟨-, hstart, hstop, hpos⟩ := cutRange_some hcut
  rw [length_cut hi]
  exact ⟨⟨by omega, Int.le_of_lt hpos, by omega⟩, hpos⟩

theorem covering_cut (hle : prevSplit ≤ i) (hj : prevSplit + j < i) :
    covering (es.cut prevSplit i).entities j = covering es.entities (prevSplit + j : Nat) := by
  refine covering_filterMap ?_ ?_
  · intro b hb c hc
    obtain ⟨hval, hstart, hstop, -⟩ := cutRange_some hc
    refine ⟨hval, ?_⟩
    rw [Covers, Covers, hstart, hstop]
    omega
  · intro b hb hc hcov
    have hemp := cutRange_none hle hc
    obtain ⟨hstart, hstop⟩ := hcov
    omega

theorem Good.cut (h : Good filled around es) (hle : prevSplit ≤ i) (hi : i ≤ es.string.length) :
    Good filled around (es.cut prevSplit i) := by
  refine ⟨fun e he => (inside_cut hle hi e he).imp_right fun hpos _ => hpos, ?_⟩
  intro j u elements hu horigin
  have hj := length_cut hi ▸ (List.getElem?_eq_some_iff.mp hu).1
  rw [EntityString.cut, getElem?_drop, getElem?_take_of_lt (by omega)] at hu
  rw [h.covered (prevSplit + j) u elements hu horigin, covering_cut hle (by omega)]

-- The parts are cut out of the string one behind the other, from a to b, each up to a separator.
def Parts (es : EntityString) (sep : UInt16) : Nat → List EntityString → Nat → Prop
  | a, [], b => a = b ∧ b ≤ es.string.length
  | a, part :: parts, b => ∃ i u, a ≤ i ∧ es.string[i]? = some u ∧ u.code = sep ∧ part = es.cut a i ∧
      Parts es sep (i + 1) parts b

theorem parts_splitLoop {sep : UInt16} {rest : List CodeUnit} (hrest : rest = es.string.drop i)
    (hi : i ≤ es.string.length) (hprev : prevSplit ≤ i) :
    Parts es sep prevSplit (es.splitLoop sep rest i prevSplit).1 (es.splitLoop sep rest i prevSplit).2 := by
  induction rest generalizing i prevSplit with
  | nil => exact ⟨rfl, Nat.le_trans hprev hi⟩
  | cons u rest ih =>
    have hu : es.string[i]? = some u := by
      rw [← head?_drop, ← hrest]
      rfl
    have hlt := (List.getElem?_eq_some_iff.mp hu).1
    have hrest' : rest = es.string.drop (i + 1) := by
      rw [← tail_drop, ← hrest, tail_cons]
    unfold splitLoop
    by_cases hsplit : u.code = sep
    · rw [if_pos hsplit]
      exact ⟨i, u, hprev, hu, hsplit, rfl, ih hrest' hlt (Nat.le_refl _)⟩
    · rw [if_neg hsplit]
      exact ih hrest' hlt (Nat.le_succ_of_le hprev)

def extent (parts : List EntityString) : Nat := (parts.map fun part => part.string.length + 1).sum

variable {sep : UInt16} {parts : List EntityString} {a b : Nat}

theorem Parts.reach (h : Parts es sep a parts b) : b = a + extent parts ∧ b ≤ es.string.length ∧
    (parts ≠ [] → ∃ k u, b = k + 1 ∧ es.string[k]? = some u ∧ u.code = sep) := by
  induction parts generalizing a with
  | nil => exact ⟨h.1.symm, h.2, fun hne => (hne rfl).elim⟩
  | cons part parts ih =>
    obtain ⟨i, u, hi, hu, hsep, rfl, hparts⟩ := h
    obtain ⟨hb, hle, hlast⟩ := ih hparts
    refine ⟨?_, hle, fun _ => ?_⟩
    · rw [hb, extent, extent, map_cons, sum_cons,
        length_cut (Nat.le_of_lt (List.getElem?_eq_some_iff.mp hu).1)]
      omega
    · cases parts with
      | nil => exact ⟨i, u, hparts.1.symm, hu, hsep⟩
      | cons part parts => exact hlast (cons_ne_nil _ _)

variable {part : EntityString}

theorem Parts.cut {before after : List EntityString} (h : Parts es sep a (before ++ part :: after) b) :
    ∃ i, a + extent before ≤ i ∧ i ≤ es.string.length ∧ part = es.cut (a + extent before) i := by
  induction before generalizing a with
  | nil =>
    obtain ⟨i, u, hi, hu, -, rfl, -⟩ := h
    exact ⟨i, hi, Nat.le_of_lt (List.getElem?_eq_some_iff.mp hu).1, rfl⟩
  | cons first before ih =>
    obtain ⟨i, u, hi, hu, -, rfl, hparts⟩ := h
    obtain ⟨k, hk⟩ := ih hparts
    have hextent : a + extent (es.cut a i :: before) = i + 1 + extent before := by
      rw [extent, extent, map_cons, sum_cons, length_cut (Nat.le_of_lt (List.getElem?_eq_some_iff.mp hu).1)]
      omega
    rw [hextent]
    exact ⟨k, hk⟩

theorem split_cases (es : EntityString) (sep : UInt16) : es.split sep = [es] ∨ ∃ parts b, Parts es sep 0 parts b ∧
    parts ≠ [] ∧ es.split sep = parts ++ if b = es.string.length then [] else [es.cut b es.string.length] := by
  have hparts : Parts es sep 0 (es.splitLoop sep es.string 0 0).1 (es.splitLoop sep es.string 0 0).2 :=
    parts_splitLoop (drop_zero).symm (Nat.zero_le _) (Nat.le_refl 0)
  unfold EntityString.split
  dsimp only
  by_cases hlast : (es.splitLoop sep es.string 0 0).2 = 0
  · exact .inl (if_pos hlast)
  refine .inr ⟨_, _, hparts, ?_, ?_⟩
  · intro hnil
    rw [hnil] at hparts
    exact hlast hparts.1.symm
  · rw [if_neg hlast]
    split_ifs <;> simp_all

theorem split_at {before after : List EntityString} (h : es.split sep = before ++ part :: after) :
    part = es ∧ before = [] ∨ ∃ i, extent before ≤ i ∧
      i ≤ es.string.length ∧ part = es.cut (extent before) i := by
  obtain hsplit | ⟨parts, b, hparts, -, hsplit⟩ := split_cases es sep
  · rw [hsplit] at h
    cases before with
    | nil =>
      cases h
      exact .inl ⟨rfl, rfl⟩
    | cons first before => simp at h
  rw [hsplit] at h
  refine .inr ?_
  split_ifs at h with hend
  · rw [append_nil] at h
    subst h
    simpa using hparts.cut
  obtain rfl | ⟨after, last, rfl⟩ := eq_nil_or_concat after
  · obtain ⟨rfl, hcons⟩ := append_inj' h rfl
    cases hcons
    obtain ⟨hb, hle, -⟩ := hparts.reach
    rw [Nat.zero_add] at hb
    exact ⟨_, hb ▸ hle, Nat.le_refl _, by rw [hb]⟩
  · rw [concat_eq_append, ← cons_append, ← append_assoc] at h
    obtain ⟨rfl, -⟩ := append_inj' h rfl
    simpa using hparts.cut

theorem mem_split (h : part ∈ es.split sep) : part = es ∨ ∃ a b, a ≤ b ∧ b ≤ es.string.length ∧ part = es.cut a b := by
  obtain ⟨before, after, hsplit⟩ := append_of_mem h
  obtain ⟨hwhole, -⟩ | ⟨i, hcut⟩ := split_at hsplit
  · exact .inl hwhole
  · exact .inr ⟨_, i, hcut⟩

theorem Good.split (h : Good filled around es) : ∀ part ∈ es.split, Good filled around part := by
  intro part hpart
  obtain rfl | ⟨a, b, hab, hb, rfl⟩ := mem_split hpart
  · exact h
  · exact h.cut hab hb

theorem split_ne_nil (es : EntityString) (sep : UInt16) : es.split sep ≠ [] := by
  obtain hsplit | ⟨parts, b, -, hne, hsplit⟩ := split_cases es sep
  · rw [hsplit]
    exact cons_ne_nil _ _
  · rw [hsplit]
    exact append_ne_nil_of_left_ne_nil hne _

def codes (string : List CodeUnit) : List UInt16 := string.map CodeUnit.code

theorem Parts.codes (h : Parts es sep a parts b) : codes (es.string.drop a) =
    (parts.map fun part => codes part.string).flatMap (· ++ [sep]) ++ codes (es.string.drop b) := by
  induction parts generalizing a with
  | nil =>
    cases h.1
    rfl
  | cons part parts ih =>
    obtain ⟨i, u, hi, hu, hsep, rfl, hparts⟩ := h
    obtain ⟨hlt, rfl⟩ := List.getElem?_eq_some_iff.mp hu
    have hdrop : es.string.drop a = (es.cut a i).string ++ es.string[i] :: es.string.drop (i + 1) := by
      rw [EntityString.cut, ← drop_eq_getElem_cons hlt]
      nth_rewrite 1 [← take_append_drop i es.string]
      rw [drop_append_of_le_length]
      rw [length_take, Nat.min_eq_left (Nat.le_of_lt hlt)]
      exact hi
    rw [hdrop, map_cons, flatMap_cons, append_assoc, ← ih hparts, EntityString.codes, map_append,
      map_cons, hsep, append_assoc]
    rfl

theorem intercalate_concat (xs : List (List UInt16)) (last : List UInt16) :
    List.intercalate [sep] (xs ++ [last]) = xs.flatMap (· ++ [sep]) ++ last := by
  induction xs with
  | nil => simp [List.intercalate]
  | cons x xs ih =>
    obtain ⟨y, ys, hys⟩ := exists_cons_of_ne_nil (concat_ne_nil last xs)
    rw [cons_append, flatMap_cons, append_assoc, ← ih, hys]
    simp [List.intercalate]

-- Up to a trailing separator the parts are the string, and each code unit keeps its styles.
theorem split_parts (es : EntityString) (sep : UInt16)
    (hinside : ∀ e ∈ es.entities, e.Inside es.string.length ∧ 0 < e.length) :
    (∃ trailing, (trailing = [] ∨ trailing = [sep]) ∧
      List.intercalate [sep] ((es.split sep).map fun part => codes part.string) ++ trailing = codes es.string) ∧
    (∀ part ∈ es.split sep, ∀ e ∈ part.entities, e.Inside part.string.length ∧ 0 < e.length) ∧
    ∀ before part after, es.split sep = before ++ part :: after → ∀ i < part.string.length,
      part.string[i]? = es.string[extent before + i]? ∧
      covering part.entities i = covering es.entities (extent before + i : Nat) := by
  refine ⟨?_, ?_, ?_⟩
  · obtain hsplit | ⟨parts, b, hparts, hne, hsplit⟩ := split_cases es sep
    · exact ⟨[], .inl rfl, by simp [hsplit, List.intercalate]⟩
    have hcodes := hparts.codes
    rw [drop_zero] at hcodes
    rw [hsplit, hcodes]
    split_ifs with hb
    · refine ⟨[sep], .inr rfl, ?_⟩
      obtain ⟨init, last, rfl⟩ := (eq_nil_or_concat parts).resolve_left hne
      rw [hb, drop_length, append_nil, concat_eq_append, map_append, map_singleton,
        intercalate_concat, flatMap_append, flatMap_singleton, append_assoc]
      exact (append_nil _).symm
    · refine ⟨[], .inl rfl, ?_⟩
      rw [map_append, map_singleton, intercalate_concat, append_nil, EntityString.cut, take_length]
  · intro part hpart
    obtain rfl | ⟨a, b, hab, hb, rfl⟩ := mem_split hpart
    · exact hinside
    · exact inside_cut hab hb
  · intro before part after hsplit i hi
    obtain ⟨rfl, rfl⟩ | ⟨stop, hle, hstop, rfl⟩ := split_at hsplit
    · simp [extent]
    · rw [length_cut hstop] at hi
      refine ⟨?_, covering_cut hle (by omega)⟩
      rw [EntityString.cut, getElem?_drop, getElem?_take_of_lt (by omega)]

def twoLines : EntityString := ⟨[⟨97, none⟩, ⟨10, none⟩, ⟨98, none⟩], [⟨0, 3, .style 1⟩]⟩

theorem split_parts_two_lines : twoLines.split.length = 2 ∧
    ∀ part ∈ twoLines.split, ∀ e ∈ part.entities, e.Inside part.string.length ∧ 0 < e.length := by
  refine ⟨rfl, (split_parts twoLines newline ?_).2.1⟩
  rintro e (_ | ⟨_, ⟨⟩⟩)
  exact ⟨⟨by decide, by decide, by decide⟩, by decide⟩

variable (es)

def core : List CodeUnit := (es.string.dropWhile isSpace).rdropWhile isSpace

theorem string_eq_core :
    ∃ lead trail, es.string = lead ++ es.core ++ trail ∧ lead.length = es.cutStart := by
  refine ⟨es.string.takeWhile isSpace, (es.string.dropWhile isSpace).rtakeWhile isSpace, ?_, rfl⟩
  rw [append_assoc, core, rdropWhile_append_rtakeWhile, takeWhile_append_dropWhile]

theorem cutEnd_eq : es.cutEnd = es.cutStart + es.core.length := rfl

theorem core_eq : (es.string.take es.cutEnd).drop es.cutStart = es.core := by
  obtain ⟨lead, trail, hstring, hlead⟩ := string_eq_core es
  have hend : es.cutEnd = (lead ++ es.core).length := by rw [cutEnd_eq, length_append, hlead]
  rw [hend, ← hlead, hstring, take_left, drop_left]

theorem takeWhile_core : es.core.takeWhile isSpace = [] := by
  cases hcore : es.core with
  | nil => rfl
  | cons u rest =>
    obtain ⟨more, hmore⟩ := rdropWhile_prefix isSpace (es.string.dropWhile isSpace)
    change es.core ++ more = _ at hmore
    have hhead := head?_dropWhile_not isSpace es.string
    rw [← hmore, hcore] at hhead
    exact takeWhile_cons_of_neg (Bool.eq_false_iff.mp hhead)

theorem cutStart_trimSpace : es.trimSpace.cutStart = 0 := by
  unfold EntityString.trimSpace
  split_ifs with hemp hwhole
  · rfl
  · exact hwhole.1
  · rw [cutStart, core_eq, takeWhile_core]
    rfl

-- Where there is whitespace to cut off at the start, no range reaches into what is cut off.
def TrimsWell : Prop :=
  es.cutStart ≠ 0 → ∀ e ∈ es.entities, 0 < e.length → es.cutStart ≤ e.start ∧ e.stop ≤ es.cutEnd

variable {es}

theorem Good.trimSpace (h : Good filled around es) (htrims : es.TrimsWell) : Good filled around es.trimSpace := by
  unfold EntityString.trimSpace
  split_ifs with hemp hwhole
  · exact good_empty
  · exact h
  rw [core_eq]
  have hend := cutEnd_eq es
  have hlen (e : BodyRange BodyRangeValue) : e.stop = e.start + e.length := rfl
  have hmoved (e : BodyRange BodyRangeValue) :
      ((e.offset (-es.cutStart)).truncateEnd es.cutEnd).start = e.start - es.cutStart ∧
      ((e.offset (-es.cutStart)).truncateEnd es.cutEnd).stop = min (e.stop - es.cutStart) es.cutEnd := by
    rw [truncateEnd_start, truncateEnd_stop, offset_start, offset_stop]
    exact ⟨rfl, rfl⟩
  refine ⟨fun c hc => ?_, fun i u elements hu horigin => ?_⟩
  · obtain ⟨hmem, hpositive⟩ := mem_filter.mp hc
    obtain ⟨e, he, rfl⟩ := mem_map.mp hmem
    have hpos := of_decide_eq_true hpositive
    obtain ⟨hstart, hstop⟩ := hmoved e
    have hinside := (h.inside e he).1.start_nonneg
    have hafter := hlen ((e.offset (-es.cutStart)).truncateEnd es.cutEnd)
    have hbef := hlen e
    have hwithin : es.cutStart ≤ e.start ∧ (es.cutStart = 0 ∨ e.stop ≤ es.cutEnd) := by
      by_cases hzero : es.cutStart = 0
      · exact ⟨by omega, .inl hzero⟩
      · obtain ⟨hlow, hhigh⟩ := htrims hzero e he (by omega)
        exact ⟨hlow, .inr hhigh⟩
    exact ⟨⟨by omega, by omega, by dsimp only; omega⟩, fun _ => hpos⟩
  · have hi : i < es.core.length := (List.getElem?_eq_some_iff.mp hu).1
    rw [← core_eq, getElem?_drop, getElem?_take_of_lt (by omega)] at hu
    rw [h.covered _ u elements hu horigin, ← filterMap_eq_filter, filterMap_map]
    refine congrArg (around ++ ·) (covering_filterMap (fun e _ c hc => ?_) fun e _ hnone hcov => ?_).symm
    · obtain ⟨rfl, -⟩ := Option.guard_eq_some_iff.mp hc
      obtain ⟨hstart, hstop⟩ := hmoved e
      refine ⟨by rw [truncateEnd_value, offset_value], ?_⟩
      rw [Covers, Covers, hstart, hstop]
      omega
    · have hemp := Option.guard_eq_none_iff.mp hnone
      obtain ⟨hstart, hstop⟩ := hmoved e
      have hafter := hlen ((e.offset (-es.cutStart)).truncateEnd es.cutEnd)
      obtain ⟨hlow, hhigh⟩ := hcov
      simp only [decide_eq_false_iff_not] at hemp
      omega

theorem join_induction {P : EntityString → Prop} {strings : List EntityString} (hemp : P {})
    (happend : ∀ a b, P a → P b → P (a.append b)) (hsep : P separator) (h : ∀ es ∈ strings, P es) :
    P (join separator strings) := by
  have hfold : ∀ acc, P acc → P (strings.foldl (joinStep separator) acc) := by
    induction strings with
    | nil => exact fun _ hacc => hacc
    | cons es rest ih =>
      intro acc hacc
      refine ih (fun es' hes' => h es' (mem_cons_of_mem es hes')) _ ?_
      unfold joinStep
      split_ifs
      · exact hacc
      · exact happend _ _ (happend acc es hacc (h es mem_cons_self)) hsep
  exact hfold {} hemp

theorem Good.join (hsep : Good filled around separator) {strings : List EntityString}
    (h : ∀ es ∈ strings, Good filled around es) : Good filled around (join separator strings) :=
  join_induction good_empty (fun _ _ => Good.append) hsep h

end EntityString

end MautrixSignal.MatrixFormat
