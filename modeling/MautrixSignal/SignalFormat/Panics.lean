import MautrixSignal.SignalFormat.Coverage

namespace MautrixSignal.SignalFormat

open List

variable {t : RangeTree}

-- signalpb.BodyRange, of which any field may be absent. A range without a value has another value than those known.
structure RangeProto where
  start : Option UInt32
  length : Option UInt32
  associatedValue : AssociatedValue

namespace RangeProto

def read (r : RangeProto) : Option SignalRange := do
  let start ← r.start
  let length ← r.length
  some ⟨start, length, r.associatedValue⟩

end RangeProto

-- slices.SortFunc with the comparison of Parse, which panics where it reads an absent field. It may compare any of
-- the ranges.
structure ProtoSort where
  run : List RangeProto → Option (List RangeProto)
  perm : ∀ {ranges sorted}, run ranges = some sorted → sorted.Perm ranges
  sorted : ∀ {ranges : List RangeProto}, (∀ r ∈ ranges, r.read.isSome) →
    ∃ sorted, run ranges = some sorted ∧ (sorted.filterMap RangeProto.read).Pairwise SignalRange.Before

section Parse

variable (params : FormatParams)

def parseProtoRange (maxLength : Nat) (state : RangeTree × Content) (r : RangeProto) :
    Option (RangeTree × Content) :=
  r.read.map (parseRange params maxLength state)

def parseProto (sort : ProtoSort) (message : String) (ranges : List RangeProto) : Option Content :=
  if ranges = [] then some { body := message }
  else do
    let utf16Message := params.encode message
    let sorted ← sort.run ranges
    let parsed ← sorted.foldlM (parseProtoRange params utf16Message.length) (.nil, { body := message })
    let html ← format params parsed.1 utf16Message false
    some { parsed.2 with mentions := parsed.2.mentions.dedup, formattedBody := some html }

end Parse

theorem valued_of_markup {message : UTF16String} {isInCodeblock : Bool} {m : Markup}
    (h : markup t message isInCodeblock = some m) : Valued t := by
  induction t generalizing message isInCodeblock m with
  | nil => trivial
  | node n sibling child ihSibling ihChild =>
    simp only [markup, Option.bind_eq_bind, Option.bind_eq_some_iff] at h
    obtain ⟨-, -, inner, -, tail, -, childMarkup, hchild, value, hval, siblingMarkup, hsib, -⟩ := h
    exact ⟨Option.isSome_iff_exists.mpr ⟨value, hval⟩, ihSibling hsib, ihChild hchild⟩

theorem valued_of_add {r : BodyRange (Option BodyRangeValue)} (h : Valued (t.add r)) :
    Valued t ∧ r.value.isSome = true := by
  induction t generalizing r with
  | nil => exact ⟨trivial, h.1⟩
  | node n sibling child ihSibling ihChild =>
    rw [LinkedRangeTree.add_node] at h
    obtain ⟨hval, hsib, hchild⟩ := h
    by_cases hinner : r.start < n.stop
    · rw [if_pos hinner] at hchild
      obtain ⟨hchild, hr⟩ := ihChild hchild
      rw [BodyRange.within_value] at hr
      refine ⟨⟨hval, ?_, hchild⟩, hr⟩
      split_ifs at hsib
      · exact (ihSibling hsib).1
      · exact hsib
    · rw [if_neg hinner] at hchild
      rw [if_pos (.inl (Int.not_lt.mp hinner))] at hsib
      obtain ⟨hsib, hr⟩ := ihSibling hsib
      rw [BodyRange.behind_value] at hr
      exact ⟨⟨hval, hsib, hchild⟩, hr⟩

theorem valued_addAll_iff {ranges : List (BodyRange (Option BodyRangeValue))} :
    Valued (t.addAll ranges) ↔ Valued t ∧ ∀ r ∈ ranges, r.value.isSome = true := by
  constructor
  · intro h
    induction ranges generalizing t with
    | nil => exact ⟨h, fun _ hr => (nomatch hr)⟩
    | cons r rest ih =>
      obtain ⟨hadd, hrest⟩ := ih h
      obtain ⟨ht, hr⟩ := valued_of_add hadd
      refine ⟨ht, fun b hb => ?_⟩
      rcases mem_cons.mp hb with rfl | hb
      · exact hr
      · exact hrest b hb
  · rintro ⟨ht, hranges⟩
    exact ht.addAll hranges

theorem format_isSome_iff (params : FormatParams) {message : UTF16String} (h : t.Fits message.length)
    (isInCodeblock : Bool) : (format params t message isInCodeblock).isSome = true ↔ Valued t := by
  rw [format_eq_markup, Option.isSome_map]
  constructor
  · intro hsome
    obtain ⟨m, hm⟩ := Option.isSome_iff_exists.mp hsome
    exact valued_of_markup hm
  · intro hvalued
    obtain ⟨m, hm, -⟩ := markup_of_fits h hvalued isInCodeblock
    rw [hm]
    rfl

section Parse

variable {params : FormatParams} {maxLength : Nat} {ranges : List RangeProto}

def mentionsNil (params : FormatParams) : AssociatedValue → Bool
  | .mentionAci text => params.parseUUID text = some .nil
  | .mentionAciBinary bytes => bytes = UUID.nil.bytes
  | _ => false

variable {result : Option BodyRangeValue × Option UserInfo}

theorem mentionValue_isSome_iff {uuid : UUID} (h : rangeValue.mentionValue params uuid = some result) :
    result.1.isSome = true ↔ uuid ≠ .nil := by
  unfold rangeValue.mentionValue at h
  split_ifs at h with hnil hmxid
  all_goals
    cases h
    simp [hnil]

theorem value_isSome_iff {value : AssociatedValue} (h : rangeValue params value = some result) :
    result.1.isSome = true ↔ mentionsNil params value = false := by
  cases value with
  | style s =>
    cases h
    exact iff_of_true rfl rfl
  | mentionAci text =>
    obtain ⟨uuid, huuid, hval⟩ := Option.bind_eq_some_iff.mp h
    rw [mentionValue_isSome_iff hval, mentionsNil, huuid]
    simp
  | mentionAciBinary bytes =>
    simp only [rangeValue] at h
    split_ifs at h with hlen
    rw [mentionValue_isSome_iff h, mentionsNil, decide_eq_false_iff_not, UUID.nil]
    simp
  | other => cases h

theorem mentionsNil_of_rangeValue_none {value : AssociatedValue} (h : rangeValue params value = none) :
    mentionsNil params value = false := by
  cases value with
  | mentionAci text =>
    rw [mentionsNil, decide_eq_false_iff_not]
    intro hnil
    simp [rangeValue, hnil, rangeValue.mentionValue] at h
  | mentionAciBinary bytes =>
    rw [mentionsNil, decide_eq_false_iff_not]
    rintro rfl
    simp [rangeValue, UUID.nil, rangeValue.mentionValue] at h
  | _ => rfl

theorem foldlM_of_read {state : RangeTree × Content} (h : ∀ r ∈ ranges, r.read.isSome = true) :
    ranges.foldlM (parseProtoRange params maxLength) state =
      some ((ranges.filterMap RangeProto.read).foldl (parseRange params maxLength) state) := by
  induction ranges generalizing state with
  | nil => rfl
  | cons r rest ih =>
    obtain ⟨signal, hsig⟩ := Option.isSome_iff_exists.mp (h r mem_cons_self)
    rw [foldlM_cons, parseProtoRange, hsig, filterMap_cons_some hsig, foldl_cons]
    exact ih fun b hb => h b (mem_cons_of_mem r hb)

theorem read_of_foldlM {state result : RangeTree × Content}
    (h : ranges.foldlM (parseProtoRange params maxLength) state = some result) :
    ∀ r ∈ ranges, r.read.isSome = true := by
  induction ranges generalizing state with
  | nil => exact fun _ hr => (nomatch hr)
  | cons r rest ih =>
    rw [foldlM_cons, Option.bind_eq_bind, Option.bind_eq_some_iff] at h
    obtain ⟨next, hnext, hrest⟩ := h
    obtain ⟨signal, hsig, -⟩ := Option.map_eq_some_iff.mp hnext
    intro b hb
    rcases mem_cons.mp hb with rfl | hb
    · exact Option.isSome_iff_exists.mpr ⟨signal, hsig⟩
    · exact ih hrest b hb

theorem read_eq_some_iff {r : RangeProto} {signal : SignalRange} :
    r.read = some signal ↔
      r.start = some signal.start ∧ r.length = some signal.length ∧ r.associatedValue = signal.associatedValue := by
  obtain ⟨start, length, value⟩ := r
  obtain ⟨start', length', value'⟩ := signal
  cases start <;> cases length <;> simp [RangeProto.read]

theorem valued_addedRanges_iff {ranges : List SignalRange} :
    (∀ range ∈ ranges.filterMap (addedRange params maxLength), range.value.isSome = true) ↔
      ∀ r ∈ ranges, r.start.toNat < maxLength → mentionsNil params r.associatedValue = false := by
  constructor
  · intro h r hr hstart
    cases hval : rangeValue params r.associatedValue with
    | none => exact mentionsNil_of_rangeValue_none hval
    | some value =>
      have hadd : addedRange params maxLength r = some (bodyRange r maxLength value.1) := by
        rw [addedRange, if_neg (Nat.not_le.mpr hstart), hval]
        rfl
      have hsome := h _ (mem_filterMap.mpr ⟨r, hr, hadd⟩)
      rw [bodyRange, BodyRange.truncateEnd_value] at hsome
      exact (value_isSome_iff hval).mp hsome
  · intro h range hrange
    obtain ⟨r, hr, hadd⟩ := mem_filterMap.mp hrange
    obtain ⟨hstart, value, hval, rfl⟩ := addedRange_some hadd
    rw [bodyRange, BodyRange.truncateEnd_value]
    exact (value_isSome_iff hval).mpr (h r hr hstart)

theorem parseProto_of_read (sort : ProtoSort) (message : String) (h : ∀ r ∈ ranges, r.read.isSome = true) :
    (parseProto params sort message ranges).isSome = true ↔
      ∀ r ∈ ranges.filterMap RangeProto.read,
        r.start.toNat < (params.encode message).length → mentionsNil params r.associatedValue = false := by
  unfold parseProto
  split_ifs with hnil
  · subst hnil
    exact iff_of_true rfl fun _ hr => (nomatch hr)
  obtain ⟨sorted, hrun, hsorted⟩ := sort.sorted h
  have hperm := sort.perm hrun
  have hread : ∀ r ∈ sorted, r.read.isSome = true := fun r hr => h r (hperm.mem_iff.mp hr)
  have hmem : ∀ r, r ∈ sorted.filterMap RangeProto.read ↔ r ∈ ranges.filterMap RangeProto.read := fun r =>
    (hperm.filterMap RangeProto.read).mem_iff
  obtain ⟨hfits, -⟩ := tree_of_sorted params (params.encode message).length hsorted
  have htree := tree_parseRanges params (params.encode message).length (.nil, { body := message })
  rw [← htree] at hfits
  have hformat := format_isSome_iff params hfits false
  rw [htree, valued_addAll_iff, valued_addedRanges_iff, ← htree] at hformat
  have hcont : ∀ (html : Option String) (content : String → Content),
      (html.bind fun html => some (content html)).isSome = html.isSome := by
    rintro (_ | html) content <;> rfl
  simp only [hrun, foldlM_of_read hread, Option.bind_eq_bind, Option.bind_some]
  rw [hcont, hformat]
  constructor
  · exact fun hvalued r hr => hvalued.2 r ((hmem r).mpr hr)
  · exact fun hvalued => ⟨trivial, fun r hr => hvalued r ((hmem r).mp hr)⟩

theorem read_of_parseProto {sort : ProtoSort} {message : String}
    (h : (parseProto params sort message ranges).isSome = true) : ∀ r ∈ ranges, r.read.isSome = true := by
  unfold parseProto at h
  split_ifs at h with hnil
  · subst hnil
    exact fun _ hr => (nomatch hr)
  obtain ⟨content, hcont⟩ := Option.isSome_iff_exists.mp h
  simp only [Option.bind_eq_bind, Option.bind_eq_some_iff] at hcont
  obtain ⟨sorted, hrun, parsed, hparsed, -⟩ := hcont
  exact fun r hr => read_of_foldlM hparsed r ((sort.perm hrun).mem_iff.mpr hr)

-- Parse returns content if and only if no field is absent and no part of the message mentions the nil UUID.
theorem parseProto_isSome_iff (params : FormatParams) (sort : ProtoSort) (message : String)
    (ranges : List RangeProto) :
    (parseProto params sort message ranges).isSome = true ↔
      ∀ r ∈ ranges, ∃ start length, r.start = some start ∧ r.length = some length ∧
        (start.toNat < (params.encode message).length → mentionsNil params r.associatedValue = false) := by
  have hread : (∀ r ∈ ranges, r.read.isSome = true) → ((parseProto params sort message ranges).isSome = true ↔
      ∀ r ∈ ranges, ∃ start length, r.start = some start ∧ r.length = some length ∧
        (start.toNat < (params.encode message).length → mentionsNil params r.associatedValue = false)) := by
    intro hread
    rw [parseProto_of_read sort message hread]
    constructor
    · intro h r hr
      obtain ⟨signal, hsig⟩ := Option.isSome_iff_exists.mp (hread r hr)
      obtain ⟨hstart, hlen, hval⟩ := read_eq_some_iff.mp hsig
      have hmem := mem_filterMap.mpr ⟨r, hr, hsig⟩
      exact ⟨signal.start, signal.length, hstart, hlen, hval ▸ h signal hmem⟩
    · intro h signal hsig
      obtain ⟨r, hr, hread⟩ := mem_filterMap.mp hsig
      obtain ⟨hstart, -, hval⟩ := read_eq_some_iff.mp hread
      obtain ⟨start, length, hstart', -, hnil⟩ := h r hr
      rw [hstart] at hstart'
      cases hstart'
      exact hval ▸ hnil
  constructor
  · exact fun h => (hread (read_of_parseProto h)).mp h
  · intro h
    refine (hread fun r hr => ?_).mpr h
    obtain ⟨start, length, hstart, hlen, -⟩ := h r hr
    exact Option.isSome_iff_exists.mpr ⟨⟨start, length, _⟩, read_eq_some_iff.mpr ⟨hstart, hlen, rfl⟩⟩

end Parse

def SignalRange.toProto (r : SignalRange) : RangeProto := ⟨some r.start, some r.length, r.associatedValue⟩

theorem toProto_of_read {r : RangeProto} {signal : SignalRange} (h : r.read = some signal) : signal.toProto = r := by
  obtain ⟨hstart, hlen, hval⟩ := read_eq_some_iff.mp h
  rw [SignalRange.toProto, ← hstart, ← hlen, ← hval]

theorem map_toProto_filterMap {ranges : List RangeProto} (h : ∀ r ∈ ranges, r.read.isSome = true) :
    (ranges.filterMap RangeProto.read).map SignalRange.toProto = ranges := by
  induction ranges with
  | nil => rfl
  | cons r rest ih =>
    obtain ⟨signal, hsig⟩ := Option.isSome_iff_exists.mp (h r mem_cons_self)
    rw [filterMap_cons_some hsig, map_cons, toProto_of_read hsig,
      ih fun b hb => h b (mem_cons_of_mem r hb)]

-- One such sort, which reads both fields of every range as soon as there are two ranges to compare.
def ProtoSort.stable : ProtoSort where
  run ranges :=
    if ranges.length ≤ 1 then some ranges
    else if ∀ r ∈ ranges, r.read.isSome = true then
      some ((SortFunc.stable.run (ranges.filterMap RangeProto.read)).map SignalRange.toProto)
    else none
  perm := by
    intro ranges sorted h
    split_ifs at h with hone hread
    · cases h
      exact List.Perm.refl ranges
    · cases h
      have hperm := (SortFunc.stable.perm (ranges.filterMap RangeProto.read)).map SignalRange.toProto
      rwa [map_toProto_filterMap hread] at hperm
  sorted := by
    intro ranges h
    split_ifs with hone
    · refine ⟨ranges, rfl, ?_⟩
      have hlen := length_filterMap_le RangeProto.read ranges
      cases hsignals : ranges.filterMap RangeProto.read with
      | nil => exact List.Pairwise.nil
      | cons r rest =>
        rw [hsignals, length_cons] at hlen
        rw [eq_nil_of_length_eq_zero (by omega : rest.length = 0)]
        exact pairwise_singleton _ r
    · refine ⟨_, rfl, ?_⟩
      have hsame : ∀ signals : List SignalRange,
          (signals.map SignalRange.toProto).filterMap RangeProto.read = signals := by
        intro signals
        rw [filterMap_map]
        exact filterMap_some
      rw [hsame]
      exact SortFunc.stable.sorted _

def asciiParams : FormatParams where
  getUserInfo _ := ⟨"", ""⟩
  parseUUID text := if text = "00000000-0000-0000-0000-000000000000" then some .nil else none
  encode text := text.toList.map fun c => .ofNat c.toNat
  decode units := String.ofList (units.map fun unit => .ofNat unit.toNat)
  textToHTML := id
  escapeString := id
  matrixToURL := id

-- A mention of the nil UUID, and a range without a start.
theorem nil_mention_and_absent_start_panic :
    parseProto asciiParams .stable "x" [⟨some 0, some 1, .mentionAci "00000000-0000-0000-0000-000000000000"⟩] = none ∧
      parseProto asciiParams .stable "x" [⟨none, some 1, .style styleBold⟩] = none := by
  decide +kernel

end MautrixSignal.SignalFormat
