import MautrixSignal.SignalFormat

namespace MautrixSignal.SignalFormat

open List LinkedRangeTree SignalRange

variable {message : UTF16String} {n : BodyRange (Option BodyRangeValue)} {sibling child t : RangeTree}
  {i : Int}

inductive Markup
  | text (isInCodeblock : Bool) (message : UTF16String)
  | wrap (value : BodyRangeValue) (inner : Markup)
  | append (first second : Markup)

namespace Markup

def html (params : FormatParams) : Markup → String
  | .text isInCodeblock message => textToHTML params isInCodeblock message
  | .wrap value inner => BodyRangeValue.format params value (inner.html params)
  | .append first second => first.html params ++ second.html params

def pieces : Markup → List (UInt16 × List BodyRangeValue)
  | .text _ message => message.map fun unit => (unit, [])
  | .wrap value inner => inner.pieces.map fun piece => (piece.1, value :: piece.2)
  | .append first second => first.pieces ++ second.pieces

end Markup

def markup : RangeTree → UTF16String → Bool → Option Markup
  | .nil, message, isInCodeblock => some (.text isInCodeblock message)
  | .node n sibling child, message, isInCodeblock => do
    let head ← slice message 0 n.start
    let inner ← slice message n.start n.stop
    let tail ← slice message n.stop message.length
    let childMarkup ← markup child inner (isInCodeblock || isMonospace n.value)
    let value ← n.value
    let siblingMarkup ← markup sibling tail isInCodeblock
    some (.append (.append (.text isInCodeblock head) (.wrap value childMarkup)) siblingMarkup)

-- LinkedRangeTree.Format renders exactly this markup, and panics where there is none.
theorem format_eq_markup (params : FormatParams) (t : RangeTree) (message : UTF16String) (isInCodeblock : Bool) :
    format params t message isInCodeblock = (markup t message isInCodeblock).map (Markup.html params) := by
  induction t generalizing message isInCodeblock with
  | nil => rfl
  | node n sibling child ihSibling ihChild =>
    simp only [format, markup, ihSibling, ihChild]
    cases slice message 0 n.start with
    | none => rfl
    | some head =>
      cases slice message n.start n.stop with
      | none => rfl
      | some inner =>
        cases slice message n.stop message.length with
        | none => rfl
        | some tail =>
          cases hchild : markup child inner (isInCodeblock || isMonospace n.value) with
          | none => simp [hchild]
          | some childMarkup =>
            cases hval : n.value with
            | none => simp
            | some value =>
              rw [hval] at hchild
              cases hsib : markup sibling tail isInCodeblock with
              | none => simp [hsib]
              | some siblingMarkup => simp [hchild, hsib, Markup.html]

theorem slice_eq {low high : Int} (hlow : 0 ≤ low) (hle : low ≤ high) (hhigh : high ≤ message.length) :
    slice message low high = some ((message.drop low.toNat).take (high - low).toNat) :=
  if_pos ⟨hlow, hle, hhigh⟩

def Valued : RangeTree → Prop
  | .nil => True
  | .node n sibling child => n.value.isSome ∧ Valued sibling ∧ Valued child

def valuesAt (t : RangeTree) (i : Int) : List BodyRangeValue := (t.values i).filterMap id

theorem valuesAt_before (h : i < n.start) : valuesAt (.node n sibling child) i = [] := by
  simp [valuesAt, values, h]

theorem valuesAt_within {value : BodyRangeValue} (hval : n.value = some value) (hstart : n.start ≤ i)
    (hstop : i < n.stop) : valuesAt (.node n sibling child) i = value :: valuesAt child (i - n.start) := by
  have hbef : ¬i < n.start := by omega
  simp [valuesAt, values, hbef, hstop, hval]

theorem valuesAt_behind (hinside : n.start ≤ n.stop) (hstop : n.stop ≤ i) :
    valuesAt (.node n sibling child) i = valuesAt sibling (i - n.stop) := by
  have hbef : ¬i < n.start := by omega
  have hin : ¬i < n.stop := by omega
  simp [valuesAt, values, hbef, hin]

def labelled (t : RangeTree) (message : UTF16String) : List (UInt16 × List BodyRangeValue) :=
  message.mapIdx fun i unit => (unit, valuesAt t i)

theorem labelled_node {value : BodyRangeValue} (hval : n.value = some value) {head inner tail : UTF16String}
    (hhead : (head.length : Int) = n.start) (hinner : (inner.length : Int) = n.length) :
    labelled (.node n sibling child) (head ++ inner ++ tail) =
      head.map (fun unit => (unit, [])) ++
        (labelled child inner).map (fun piece => (piece.1, value :: piece.2)) ++ labelled sibling tail := by
  have hstop : n.stop = n.start + n.length := rfl
  unfold labelled
  rw [mapIdx_append, mapIdx_append]
  congr 1
  · congr 1
    · refine ext_getElem (by simp) fun i hi hi' => ?_
      rw [length_map] at hi'
      rw [getElem_mapIdx, getElem_map, valuesAt_before (by omega)]
    · refine ext_getElem (by simp) fun i hi hi' => ?_
      rw [length_mapIdx] at hi
      rw [getElem_map, getElem_mapIdx, getElem_mapIdx,
        valuesAt_within hval (by omega) (by omega)]
      congr 3
      omega
  · refine mapIdx_eq_mapIdx_iff.mpr fun i hi => ?_
    rw [length_append, valuesAt_behind (by omega) (by omega)]
    congr 2
    omega

theorem slices_eq (h : n.Inside message.length) :
    ∃ head inner tail, message = head ++ inner ++ tail ∧ (head.length : Int) = n.start ∧
      (inner.length : Int) = n.length ∧ slice message 0 n.start = some head ∧
      slice message n.start n.stop = some inner ∧ slice message n.stop message.length = some tail := by
  obtain ⟨hstart, hlen, hstop⟩ := h
  have hsum : n.stop = n.start + n.length := rfl
  have hinner : (n.stop - n.start).toNat = n.length.toNat := by omega
  have htail : (message.length - n.stop).toNat = message.length - n.stop.toNat := by omega
  refine ⟨message.take n.start.toNat, (message.drop n.start.toNat).take n.length.toNat,
    message.drop n.stop.toNat, ?_, ?_, ?_, ?_, ?_, ?_⟩
  · have hdrop : message.drop n.stop.toNat = (message.drop n.start.toNat).drop n.length.toNat := by
      rw [drop_drop]
      congr 1
      omega
    rw [hdrop, append_assoc, take_append_drop, take_append_drop]
  · rw [length_take]
    omega
  · rw [length_take, length_drop]
    omega
  · rw [slice_eq (Int.le_refl 0) hstart (by omega)]
    simp
  · rw [slice_eq hstart (by omega) hstop, hinner]
  · rw [slice_eq (by omega) hstop (Int.le_refl _), htail, ← length_drop, take_length]

-- A tree that fits the message is rendered, and the text renderer gets each code unit once, in order, within the
-- values of its position.
theorem markup_of_fits (hfits : t.Fits message.length) (hvalued : Valued t) (isInCodeblock : Bool) :
    ∃ m, markup t message isInCodeblock = some m ∧ m.pieces = labelled t message := by
  induction t generalizing message isInCodeblock with
  | nil =>
    refine ⟨_, rfl, ext_getElem (by simp [Markup.pieces, labelled]) fun i hi hi' => ?_⟩
    simp [Markup.pieces, labelled, valuesAt, values]
  | node n sibling child ihSibling ihChild =>
    obtain ⟨hinside, hsib, hchild⟩ := hfits
    obtain ⟨hval, hvaluedSibling, hvaluedChild⟩ := hvalued
    obtain ⟨value, hval⟩ := Option.isSome_iff_exists.mp hval
    obtain ⟨head, inner, tail, hmsg, hhead, hinner, hslices⟩ := slices_eq hinside
    have htail : (tail.length : Int) = message.length - n.stop := by
      have hsum : n.stop = n.start + n.length := rfl
      rw [hmsg, length_append, length_append]
      omega
    rw [← hinner] at hchild
    rw [← htail] at hsib
    obtain ⟨childMarkup, hchildMarkup, hchildPieces⟩ :=
      ihChild hchild hvaluedChild (isInCodeblock || isMonospace n.value)
    obtain ⟨siblingMarkup, hsiblingMarkup, hsiblingPieces⟩ := ihSibling hsib hvaluedSibling isInCodeblock
    refine ⟨.append (.append (.text isInCodeblock head) (.wrap value childMarkup)) siblingMarkup, ?_, ?_⟩
    · rw [hval] at hchildMarkup
      simp [markup, hslices, hval, hchildMarkup, hsiblingMarkup]
    · rw [hmsg, labelled_node hval hhead hinner, ← hchildPieces, ← hsiblingPieces]
      rfl

theorem Valued.add {r : BodyRange (Option BodyRangeValue)} (h : Valued t) (hr : r.value.isSome = true) :
    Valued (t.add r) := by
  induction t generalizing r with
  | nil => exact ⟨hr, trivial, trivial⟩
  | node n sibling child ihSibling ihChild =>
    obtain ⟨hval, hsib, hchild⟩ := h
    rw [add_node]
    refine ⟨hval, ?_, ?_⟩
    · split_ifs
      · exact ihSibling hsib (by rwa [BodyRange.behind_value])
      · exact hsib
    · split_ifs
      · exact ihChild hchild (by rwa [BodyRange.within_value])
      · exact hchild

theorem Valued.addAll {ranges : List (BodyRange (Option BodyRangeValue))} (h : Valued t)
    (hranges : ∀ r ∈ ranges, r.value.isSome = true) : Valued (t.addAll ranges) := by
  induction ranges generalizing t with
  | nil => exact h
  | cons r rest ih =>
    have hr := h.add (hranges r mem_cons_self)
    exact ih hr fun b hb => hranges b (mem_cons_of_mem _ hb)

section Styles

variable (params : FormatParams) {r : SignalRange} {maxLength : Nat} {ranges : List SignalRange}
  {range : BodyRange (Option BodyRangeValue)}

def addedRange (maxLength : Nat) (r : SignalRange) : Option (BodyRange (Option BodyRangeValue)) :=
  if maxLength ≤ r.start.toNat then none
  else (rangeValue params r.associatedValue).map fun value => bodyRange r maxLength value.1

theorem tree_parseRange (maxLength : Nat) (state : RangeTree × Content) (r : SignalRange) :
    (parseRange params maxLength state r).1 =
      ((addedRange params maxLength r).map fun range => state.1.add range).getD state.1 := by
  unfold parseRange addedRange
  split_ifs with hbehind
  · rfl
  · cases rangeValue params r.associatedValue with
    | none => rfl
    | some value => rfl

theorem tree_parseRanges (maxLength : Nat) (state : RangeTree × Content) (ranges : List SignalRange) :
    (ranges.foldl (parseRange params maxLength) state).1 =
      state.1.addAll (ranges.filterMap (addedRange params maxLength)) := by
  induction ranges generalizing state with
  | nil => rfl
  | cons r rest ih =>
    rw [foldl_cons, ih, tree_parseRange, filterMap_cons]
    cases addedRange params maxLength r with
    | none => rfl
    | some range => rfl

structure StyleRange where
  start : UInt32
  length : UInt32
  style : Style

def StyleRange.signalRange (r : StyleRange) : SignalRange := ⟨r.start, r.length, .style r.style⟩

def SignalRange.Covers (r : SignalRange) (i : Nat) : Prop :=
  r.start.toNat ≤ i ∧ i < r.start.toNat + r.length.toNat

instance (r : SignalRange) (i : Nat) : Decidable (r.Covers i) := inferInstanceAs (Decidable (_ ∧ _))

def SignalRange.style? (r : SignalRange) : Option BodyRangeValue :=
  match r.associatedValue with
  | .style s => some (.style s)
  | _ => none

-- The styles of the ranges that cover a code unit, in the order of the list.
def stylesAt (ranges : List SignalRange) (i : Nat) : List BodyRangeValue :=
  (ranges.filter fun r => r.Covers i).filterMap style?

theorem bodyRange_start (r : SignalRange) (maxLength : Nat) (value : Option BodyRangeValue) :
    (bodyRange r maxLength value).start = r.start.toNat := by
  rw [bodyRange, BodyRange.truncateEnd_start]

theorem bodyRange_stop (r : SignalRange) (maxLength : Nat) (value : Option BodyRangeValue) :
    (bodyRange r maxLength value).stop = min (r.start.toNat + r.length.toNat : Int) maxLength := by
  rw [bodyRange, BodyRange.truncateEnd_stop]
  rfl

theorem bodyRange_inside (value : Option BodyRangeValue) (h : r.start.toNat < maxLength) :
    (bodyRange r maxLength value).Inside maxLength := by
  have hstart := bodyRange_start r maxLength value
  have hstop := bodyRange_stop r maxLength value
  have hsum : (bodyRange r maxLength value).stop =
    (bodyRange r maxLength value).start + (bodyRange r maxLength value).length := rfl
  exact ⟨by omega, by omega, by omega⟩

theorem bodyRange_covers {i : Nat} (value : Option BodyRangeValue) (hi : i < maxLength) :
    (bodyRange r maxLength value).Covers i ↔ r.Covers i := by
  rw [BodyRange.Covers, Covers, bodyRange_start, bodyRange_stop]
  omega

variable {params}

theorem addedRange_style {s : Style} (hstyle : r.associatedValue = .style s) (maxLength : Nat) :
    addedRange params maxLength r =
      if maxLength ≤ r.start.toNat then none else some (bodyRange r maxLength (some (.style s))) := by
  unfold addedRange
  rw [hstyle]
  rfl

theorem covering_addedRanges {i : Nat} (hi : i < maxLength)
    (hstyles : ∀ r ∈ ranges, ∃ s, r.associatedValue = .style s) :
    (BodyRange.covering (ranges.filterMap (addedRange params maxLength)) i).filterMap id = stylesAt ranges i := by
  induction ranges with
  | nil => rfl
  | cons r rest ih =>
    obtain ⟨s, hs⟩ := hstyles r mem_cons_self
    have hrest := ih fun b hb => hstyles b (mem_cons_of_mem _ hb)
    have hstyle : r.style? = some (.style s) := by rw [style?, hs]
    unfold BodyRange.covering stylesAt at hrest ⊢
    rw [filterMap_cons, addedRange_style hs]
    by_cases hbehind : maxLength ≤ r.start.toNat
    · have hcov : ¬r.Covers i := fun hcov => absurd hcov.1 (by omega)
      rw [if_pos hbehind, filter_cons_of_neg (by simpa using hcov)]
      exact hrest
    · rw [if_neg hbehind]
      have hiff := bodyRange_covers (r := r) (some (.style s)) hi
      by_cases hcov : r.Covers i
      · rw [filter_cons_of_pos (by simpa using hiff.mpr hcov),
          filter_cons_of_pos (by simpa using hcov), filterMap_cons_some hstyle, ← hrest]
        simp [bodyRange]
      · rw [filter_cons_of_neg (by simpa using fun h => hcov (hiff.mp h)),
          filter_cons_of_neg (by simpa using hcov)]
        exact hrest

theorem addedRange_some (h : addedRange params maxLength r = some range) :
    r.start.toNat < maxLength ∧
      ∃ value, rangeValue params r.associatedValue = some value ∧ range = bodyRange r maxLength value.1 := by
  unfold addedRange at h
  rw [Option.ite_none_left_eq_some] at h
  obtain ⟨value, hval, hrange⟩ := Option.map_eq_some_iff.mp h.2
  exact ⟨Nat.lt_of_not_le h.1, value, hval, hrange.symm⟩

theorem addedRange_inside (h : addedRange params maxLength r = some range) : range.Inside maxLength := by
  obtain ⟨hstart, value, -, rfl⟩ := addedRange_some h
  exact bodyRange_inside value.1 hstart

theorem addedRange_style_isSome (hstyle : ∃ s, r.associatedValue = .style s)
    (h : addedRange params maxLength r = some range) : range.value.isSome = true := by
  obtain ⟨s, hs⟩ := hstyle
  obtain ⟨-, value, hval, rfl⟩ := addedRange_some h
  rw [hs] at hval
  cases hval
  rw [bodyRange, BodyRange.truncateEnd_value]
  rfl

theorem addedRanges_sorted (h : ranges.Pairwise Before) :
    (ranges.filterMap (addedRange params maxLength)).Pairwise fun a b => a.start ≤ b.start := by
  refine pairwise_filterMap.mpr (h.imp ?_)
  intro a b hbef ra hra rb hrb
  obtain ⟨-, -, -, rfl⟩ := addedRange_some hra
  obtain ⟨-, -, -, rfl⟩ := addedRange_some hrb
  rw [bodyRange_start, bodyRange_start]
  obtain hlt | ⟨heq, -⟩ := hbef
  · have hnat := UInt32.lt_iff_toNat_lt.mp hlt
    omega
  · exact Int.le_of_eq (by rw [heq])

theorem tree_of_sorted (params : FormatParams) (maxLength : Nat)
    (hsorted : ranges.Pairwise Before) :
    let t : RangeTree := nil.addAll (ranges.filterMap (addedRange params maxLength))
    t.Fits maxLength ∧
      ∀ i, t.values i = BodyRange.covering (ranges.filterMap (addedRange params maxLength)) i := by
  have hinside : ∀ range ∈ ranges.filterMap (addedRange params maxLength), range.Inside maxLength := by
    intro range hrange
    obtain ⟨r, -, hadd⟩ := mem_filterMap.mp hrange
    exact addedRange_inside hadd
  exact addAll_spec (t := .nil) trivial (fun _ _ => trivial) hinside (addedRanges_sorted hsorted)

theorem tree_of_styles (params : FormatParams) (maxLength : Nat)
    (hsorted : ranges.Pairwise Before) (hstyles : ∀ r ∈ ranges, ∃ s, r.associatedValue = .style s) :
    let t : RangeTree := nil.addAll (ranges.filterMap (addedRange params maxLength))
    t.Fits maxLength ∧ Valued t ∧ ∀ i, i < maxLength → valuesAt t i = stylesAt ranges i := by
  obtain ⟨hfits, hvals⟩ := tree_of_sorted params maxLength hsorted
  refine ⟨hfits, Valued.addAll trivial ?_, fun i hi => ?_⟩
  · intro range hrange
    obtain ⟨r, hr, hadd⟩ := mem_filterMap.mp hrange
    exact addedRange_style_isSome (hstyles r hr) hadd
  · rw [← covering_addedRanges hi hstyles, valuesAt, hvals]

end Styles

-- Parse renders the tree of any style ranges without a panic. The text renderer gets every code unit once, in
-- order, inside exactly the styles of the ranges that cover it.
theorem parse_styles (params : FormatParams) (sort : SortFunc) (text : String) (message : UTF16String)
    (ranges : List StyleRange) :
    ∃ m, markup (parseRanges params sort message.length { body := text } (ranges.map StyleRange.signalRange)).1
        message false = some m ∧
      m.pieces = message.mapIdx (fun i unit =>
        (unit, stylesAt (sort.run (ranges.map StyleRange.signalRange)) i)) ∧
      (params.encode text = message → ranges ≠ [] →
        (parse params sort text (ranges.map StyleRange.signalRange)).bind Content.formattedBody =
          some (m.html params)) := by
  have hstyles : ∀ r ∈ sort.run (ranges.map StyleRange.signalRange), ∃ s, r.associatedValue = .style s := by
    intro r hr
    obtain ⟨range, -, rfl⟩ := mem_map.mp ((sort.perm _).mem_iff.mp hr)
    exact ⟨range.style, rfl⟩
  have htree := tree_parseRanges params message.length (.nil, { body := text })
  obtain ⟨hfits, hvalued, hvals⟩ := tree_of_styles params message.length (sort.sorted _) hstyles
  obtain ⟨m, hmarkup, hpieces⟩ := markup_of_fits hfits hvalued false
  rw [← htree] at hmarkup
  refine ⟨m, hmarkup, ?_, ?_⟩
  · rw [hpieces]
    refine mapIdx_eq_mapIdx_iff.mpr fun i hi => ?_
    rw [hvals i hi]
  · intro hencode hne
    have hranges : ranges.map StyleRange.signalRange ≠ [] := fun h => hne (map_eq_nil_iff.mp h)
    rw [parse, if_neg hranges, hencode]
    dsimp only
    rw [format_eq_markup, parseRanges, hmarkup]
    rfl

example : (markup (nil.addAll [⟨0, 2, some (.style styleBold)⟩, ⟨1, 2, some (.style styleItalic)⟩])
    [97, 98, 99] false).map Markup.pieces =
      some [(97, [.style styleBold]), (98, [.style styleBold, .style styleItalic]), (99, [.style styleItalic])] := by
  decide

end MautrixSignal.SignalFormat
