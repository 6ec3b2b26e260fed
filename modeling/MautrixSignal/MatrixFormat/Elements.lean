import MautrixSignal.Lib.Checks
import MautrixSignal.MatrixFormat
import MautrixSignal.MatrixFormat.Ranges

namespace MautrixSignal.MatrixFormat

open EntityString List

open Lib (Settles)
open SignalFormat (BodyRange BodyRangeValue Style)
open EntityString (Good)

variable {filled : Prop} {around : List BodyRangeValue} {es other : EntityString} {str : Option EntityString}

theorem Good.appendMaybe (h : Good filled around es) (hstr : ∀ es ∈ str, Good filled around es) :
    Good filled around (es.appendMaybe str) := by
  cases str with
  | none => exact h
  | some other => exact h.append (hstr other rfl)

theorem good_tagAwareString {strs : List TaggedString}
    (h : ∀ str ∈ strs, ∀ es ∈ str.entityString, Good filled around es)
    (htrims : ∀ es ∈ strs.foldl appendTagged none, es.TrimsWell) :
    ∀ es ∈ tagAwareString strs, Good filled around es := by
  have hfold : ∀ output : Option EntityString, (∀ es ∈ output, Good filled around es) →
      ∀ es ∈ strs.foldl appendTagged output, Good filled around es := by
    clear htrims
    induction strs with
    | nil => exact fun _ houtput => houtput
    | cons str rest ih =>
      intro output houtput
      refine ih (fun str' hstr' => h str' (mem_cons_of_mem str hstr')) _ ?_
      have hstr := h str mem_cons_self
      have htstr : ∀ es ∈ (if str.tag.any isBlockTag then
          some (((new "\n").appendMaybe str.entityString).append (.new "\n")) else str.entityString),
          Good filled around es := by
        split_ifs
        · rintro es ⟨⟩
          exact (Good.appendMaybe (good_new _) hstr).append (good_new _)
        · exact hstr
      cases output with
      | none => exact htstr
      | some before =>
        rintro es ⟨⟩
        exact Good.appendMaybe (houtput before rfl) htstr
  intro es hes
  obtain ⟨before, hbef, rfl⟩ := Option.map_eq_some_iff.mp hes
  exact (hfold none (fun es hes => (nomatch hes)) before hbef).trimSpace (htrims before hbef)

theorem settles_deref {α : Type} (a : Option α) : Settles (deref a) (a ≠ none) fun value => a = some value := by
  cases a with
  | none => exact fun h => h rfl
  | some value => exact ⟨nofun, rfl⟩

def NoneNil (strs : List TaggedString) : Prop := ∀ str ∈ strs, str.entityString ≠ none

variable (filled around) in
theorem settles_plainString (strs : List TaggedString) : Settles (plainString strs) (NoneNil strs) fun es =>
    (∀ str ∈ strs, ∀ es ∈ str.entityString, Good filled around es) → Good filled around es := by
  have hderef : Settles ((strs.map TaggedString.entityString).mapM deref) (NoneNil strs)
      fun derefs => strs.map TaggedString.entityString = derefs.map some := by
    induction strs with
    | nil => exact ⟨nofun, rfl⟩
    | cons str strs ih =>
      rw [map_cons, mapM_cons]
      refine .congr forall_mem_cons ((settles_deref _).bind fun es hes => ih.map fun derefs hderefs => ?_)
      rw [hes, hderefs]
      rfl
  refine hderef.map fun derefs hstrings hfine => Good.join (good_new "") fun es hes => ?_
  have hmem : some es ∈ strs.map TaggedString.entityString := hstrings ▸ mem_map_of_mem hes
  obtain ⟨str, hstr, hsome⟩ := mem_map.mp hmem
  exact hfine str hstr es hsome

theorem good_blockquoteToString (h : ∀ es ∈ str, Good filled around es) (htrims : ∀ es ∈ str, es.TrimsWell) :
    Good filled around (blockquoteToString str) := by
  refine Good.join (good_new "\n") fun line hline => ?_
  obtain ⟨part, hpart, rfl⟩ := mem_map.mp hline
  refine (good_new "> ").append ?_
  cases str with
  | none => cases hpart
  | some es => exact ((h es rfl).trimSpace (htrims es rfl)).split part hpart

section Lists

variable (parser : HTMLParser) {ordered : Bool} (indentLength : Nat) {counter : Int64}

theorem digits_isOk {num : Int64} (h : num ≠ Int64.minValue) : ∃ width, digits parser num = .ok width := by
  unfold digits
  have hneg : num < 0 → ¬-num < 0 := by grind
  split_ifs with hzero hlt hloop
  · exact ⟨_, rfl⟩
  · exact absurd hloop (hneg hlt)
  · exact ⟨_, rfl⟩
  · exact ⟨_, rfl⟩

theorem settles_digits (num : Int64) : Settles (digits parser num) (num ≠ Int64.minValue) fun _ => True := by
  by_cases h : num = Int64.minValue
  · subst h
    exact fun hne => hne rfl
  · obtain ⟨width, hwidth⟩ := digits_isOk parser h
    rw [hwidth]
    exact ⟨h, trivial⟩

theorem listPrefix_isOk (h : ordered → counter ≠ Int64.minValue) :
    ∃ itemPrefix, listPrefix parser ordered indentLength counter = .ok itemPrefix := by
  unfold listPrefix
  split_ifs with hord
  · obtain ⟨width, hwidth⟩ := digits_isOk parser (h hord)
    rw [hwidth]
    exact ⟨_, rfl⟩
  · exact ⟨_, rfl⟩

theorem listItem_eq {itemPrefix : String} (hlabel : listPrefix parser ordered indentLength counter = .ok itemPrefix)
    (str : Option EntityString) :
    ∃ first rest, ((new itemPrefix).appendMaybe str).split = first :: rest ∧
      listItem parser ordered indentLength counter str =
        .ok (first :: rest.map fun part => (new (spaces (indentLength + 2))).append part) := by
  obtain ⟨first, rest, hsplit⟩ := exists_cons_of_ne_nil
    (((new itemPrefix).appendMaybe str).split_ne_nil newline)
  refine ⟨first, rest, hsplit, ?_⟩
  simp only [listItem, hlabel, bind, Except.bind, hsplit]
  rfl

variable (filled around)

theorem settles_listItem : Settles (listItem parser ordered indentLength counter str)
    (ordered → counter ≠ Int64.minValue) fun parts =>
      (∀ es ∈ str, Good filled around es) → ∀ part ∈ parts, Good filled around part := by
  by_cases h : ordered → counter ≠ Int64.minValue
  case neg =>
    obtain ⟨rfl, rfl⟩ : ordered = true ∧ counter = Int64.minValue := by simpa using h
    exact fun hne => hne rfl rfl
  obtain ⟨itemPrefix, hlabel⟩ := listPrefix_isOk parser indentLength h
  obtain ⟨first, rest, hsplit, hitem⟩ := listItem_eq parser indentLength hlabel str
  rw [hitem]
  refine ⟨h, fun hchild line hline => ?_⟩
  have hparts := hsplit ▸ (Good.appendMaybe (good_new itemPrefix) hchild).split
  rcases mem_cons.mp hline with rfl | hline
  · exact hparts _ mem_cons_self
  · obtain ⟨part, hpart, rfl⟩ := mem_map.mp hline
    exact (good_new _).append (hparts part (mem_cons_of_mem _ hpart))

def NumbersFit (ordered : Bool) (counter : Int64) (children : List TaggedString) : Prop :=
  ordered → ∀ k < children.countP (fun child => child.tag = some .li), counter + .ofNat k ≠ Int64.minValue

variable {child : TaggedString} {rest : List TaggedString}

theorem numbersFit_item (hli : child.tag = some .li) :
    NumbersFit ordered counter (child :: rest) ↔
      (ordered → counter ≠ Int64.minValue) ∧ NumbersFit ordered (counter + 1) rest := by
  have hcount : (child :: rest).countP (fun child => child.tag = some .li) =
      rest.countP (fun child => child.tag = some .li) + 1 := countP_cons_of_pos (decide_eq_true hli)
  have hsucc (k : Nat) : counter + .ofNat (k + 1) = counter + 1 + .ofNat k := by
    rw [Nat.add_comm, Int64.ofNat_add, ← Int64.add_assoc]
    rfl
  have hzero : counter + .ofNat 0 = counter := Int64.add_zero counter
  unfold NumbersFit
  rw [hcount]
  constructor
  · intro h
    refine ⟨fun hord => ?_, fun hord k hk => ?_⟩
    · rw [← hzero]
      exact h hord 0 (Nat.succ_pos _)
    · rw [← hsucc]
      exact h hord (k + 1) (Nat.succ_lt_succ hk)
  · rintro ⟨hfirst, hrest⟩ hord k hk
    cases k with
    | zero => rw [hzero]; exact hfirst hord
    | succ k => rw [hsucc]; exact hrest hord k (Nat.lt_of_succ_lt_succ hk)

theorem numbersFit_other (hli : child.tag ≠ some .li) :
    NumbersFit ordered counter (child :: rest) ↔ NumbersFit ordered counter rest := by
  rw [NumbersFit, countP_cons_of_neg (by simpa using hli)]
  rfl

variable {children : List TaggedString}

theorem settles_listItems : Settles (listItems parser ordered indentLength counter children)
    (NumbersFit ordered counter children) fun parts =>
      (∀ child ∈ children, ∀ es ∈ child.entityString, Good filled around es) →
        ∀ part ∈ parts, Good filled around part := by
  induction children generalizing counter with
  | nil => exact ⟨fun _ k hk => absurd hk (Nat.not_lt_zero k), fun _ es hes => nomatch hes⟩
  | cons child rest ih =>
    unfold listItems
    by_cases hli : child.tag = some .li
    · rw [if_pos hli]
      refine .congr (numbersFit_item hli) ((settles_listItem filled around parser indentLength).bind fun parts hparts =>
        ih.map fun others hothers hchildren part hpart => ?_)
      obtain ⟨hchild, hrest⟩ := forall_mem_cons.mp hchildren
      rcases mem_append.mp hpart with hpart | hpart
      · exact hparts hchild part hpart
      · exact hothers hrest part hpart
    · rw [if_neg hli]
      exact .congr (numbersFit_other hli) (ih.imp fun parts _ hparts hchildren =>
        hparts (forall_mem_cons.mp hchildren).2)

theorem settles_listToString (ordered : Bool) (attributes : Attributes) (children : List TaggedString) :
    Settles (listToString parser ordered attributes children)
      ((ordered → listStart parser ordered attributes - 1 + .ofNat children.length ≠ Int64.minValue) ∧
        NumbersFit ordered (listStart parser ordered attributes) children) fun es =>
      (∀ child ∈ children, ∀ es ∈ child.entityString, Good filled around es) → Good filled around es := by
  have hindent : Settles (listIndent parser ordered (listStart parser ordered attributes) children.length)
      (ordered → listStart parser ordered attributes - 1 + .ofNat children.length ≠ Int64.minValue)
      fun _ => True := by
    cases ordered with
    | true => exact .congr (forall_prop_of_true rfl) (settles_digits parser _)
    | false => exact ⟨nofun, trivial⟩
  exact hindent.bind fun indentLength _ => (settles_listItems filled around parser indentLength).map
    fun _ hparts hchildren => Good.join (good_new "\n") (hparts hchildren)

end Lists

theorem good_headerToString {level : Fin 6} (h : Good filled (around ++ [.style SignalFormat.styleBold]) es) :
    Good filled around (headerToString level es) := by
  refine ((good_new _).append h).format fun _ hnil => ?_
  have hlevel := congrArg List.length (append_eq_nil_iff.mp hnil).1
  simp [new, ofUnits, newUTF16String, replicate_succ, encodeChar] at hlevel

theorem good_preToString (language : String) (h : Good filled around es) :
    Good filled around (preToString language es) :=
  ((good_new _).append h).append (good_new _)

variable (filled around) in
theorem settles_linkToString (parser : HTMLParser) (ctx : Context) (href : String) (str : Option EntityString) :
    Settles (linkToString parser ctx href str) (linkTarget parser ctx href ≠ .text → str ≠ none) fun result =>
      result.isNone = str.isNone ∧ ((∀ es ∈ str, Good filled around es) → ∀ es ∈ result, Good filled around es) := by
  unfold linkToString
  cases linkTarget parser ctx href with
  | text => exact ⟨fun h => absurd rfl h, rfl, id⟩
  | mention mxid uuid =>
    refine .congr (forall_prop_of_true nofun) ((settles_deref str).map ?_)
    rintro es rfl
    refine ⟨rfl, ?_⟩
    rintro - es' ⟨⟩
    exact (good_new _).format fun _ => cons_ne_nil _ _
  | url =>
    refine .congr (forall_prop_of_true nofun) ((settles_deref str).map ?_)
    rintro es rfl
    refine ⟨rfl, ?_⟩
    rintro h es' ⟨⟩
    split_ifs
    · exact h es rfl
    · exact (h es rfl).append (good_new _)

def formatted (e : Element) (str : Option EntityString) : Option EntityString :=
  match e.style with
  | some style => str.map fun es => es.format (.style style)
  | none => str

def valuesOf (e : Element) : List BodyRangeValue := enclosingStyles [e]

theorem good_formatted {e : Element} (h : ∀ es ∈ str, Good filled (around ++ valuesOf e) es)
    (hne : filled → e.style ≠ none → ∀ es ∈ str, es.string ≠ []) : ∀ es ∈ formatted e str, Good filled around es := by
  unfold formatted
  cases hstyle : e.style with
  | none =>
    have hnone : valuesOf e = [] := by
      simp [valuesOf, enclosingStyles, hstyle]
    rwa [hnone, append_nil] at h
  | some style =>
    have hsome : valuesOf e = [.style style] := by
      simp [valuesOf, enclosingStyles, hstyle]
    rw [hsome] at h
    intro es hes
    obtain ⟨content, hcont, rfl⟩ := Option.map_eq_some_iff.mp hes
    exact (h content hcont).format fun hfilled => hne hfilled (by rw [hstyle]; nofun) content hcont

def isInline (tag : Tag) : Bool :=
  match tag with
  | .blockquote | .ol | .ul | .header _ | .br | .a | .hr | .pre => false
  | _ => true

theorem tagToString_inline (parser : HTMLParser) (ctx : Context) {tag : Tag} (attributes : Attributes)
    (children : Context → Except Panic (List TaggedString))
    (fence : Option (Attributes × (Context → Except Panic (List TaggedString)))) (h : isInline tag = true) :
    tagToString parser ctx tag attributes children fence = (do
      let strs ← children (ctx.withTag ⟨tag, attributes, false⟩)
      pure (formatted ⟨tag, attributes, false⟩ (tagAwareString strs))) := by
  cases tag
  case span =>
    unfold tagToString spanToString formatted Element.style
    split_ifs <;> simp_all
  all_goals first
    | rfl
    | cases h

end MautrixSignal.MatrixFormat
