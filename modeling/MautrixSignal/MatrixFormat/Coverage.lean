import MautrixSignal.MatrixFormat.Elements
import Mathlib.Data.Nat.Log

namespace MautrixSignal.MatrixFormat

open TaggedString

open Lib (Settles)
open SignalFormat (BodyRange BodyRangeValue Style)
open EntityString (Good)

variable {filled : Prop} {parser : HTMLParser} {ctx : Context} {around : List BodyRangeValue}

abbrev Outline := Option Tag × Bool

def TaggedString.outline (str : TaggedString) : Outline := (str.tag, str.entityString.isNone)

def awareNil (outlines : List Outline) : Bool := outlines.all fun o => !o.1.any isBlockTag && o.2

def Present (outlines : List Outline) : Prop := ∀ o ∈ outlines, o.2 = false

-- What an element dereferences or counts is there: a text in some links and in each child of headings and pre
-- elements, and no list that comes to the smallest integer.
def ContentRenders (parser : HTMLParser) (target : String → LinkTarget) (tag : Tag) (attributes : Attributes)
    (outlines : List Outline) : Prop :=
  match tag with
  | .header _ => Present outlines
  | .a => target (getAttribute attributes "href") ≠ .text → awareNil outlines = false
  | .ol =>
    listStart parser true attributes - 1 + .ofNat outlines.length ≠ Int64.minValue ∧
      ∀ k < outlines.countP (fun o => o.1 = some .li),
        listStart parser true attributes + .ofNat k ≠ Int64.minValue
  | _ => True

def TrimsContent (strs : List TaggedString) : Prop := ∀ es ∈ strs.foldl appendTagged none, es.TrimsWell

-- Nothing is missing that is dereferenced or counted, and TrimSpace is not called where it slips. The element is filled
-- if it has a text where it has a style.
structure CarefulContent (filled : Prop) (parser : HTMLParser) (ctx : Context) (tag : Tag) (attributes : Attributes)
    (strs : List TaggedString) : Prop where
  renders : ContentRenders parser (linkTarget parser ctx) tag attributes (strs.map outline)
  trims : (isInline tag || tag = .a || tag = .blockquote) = true → TrimsContent strs
  full : filled → isInline tag = true → (Element.mk tag attributes false).style ≠ none →
    ∀ es ∈ tagAwareString strs, es.string ≠ []

def Context.inPre (ctx : Context) (attributes : Attributes) : Context :=
  (ctx.withTag ⟨.pre, attributes, false⟩).withWhitespace

def Context.inFence (ctx : Context) (attributes codeAttributes : Attributes) : Context :=
  ((ctx.withTag ⟨.pre, attributes, false⟩).withTag ⟨.code, codeAttributes, true⟩).withWhitespace

inductive Careful (filled : Prop) (parser : HTMLParser) : Context → Node → Prop
  | nil (ctx : Context) : Careful filled parser ctx .nil
  | text {ctx : Context} {data : String} {child next : Node} (hnext : Careful filled parser ctx next) :
      Careful filled parser ctx (.node (.text data) child next)
  | other {ctx : Context} {child next : Node} (hnext : Careful filled parser ctx next) :
      Careful filled parser ctx (.node .other child next)
  | document {ctx : Context} {child next : Node} (hchild : Careful filled parser ctx child)
      (htrims : ∀ strs, nodeToTaggedStrings parser child ctx = .ok strs → TrimsContent strs)
      (hnext : Careful filled parser ctx next) : Careful filled parser ctx (.node .document child next)
  | empty {ctx : Context} {tag : Tag} {attributes : Attributes} {child next : Node} (htag : tag = .br ∨ tag = .hr)
      (hnext : Careful filled parser ctx next) : Careful filled parser ctx (.node (.element tag attributes) child next)
  | fence {ctx : Context} {attributes codeAttributes : Attributes} {child rest next : Node}
      (hchild : Careful filled parser (ctx.inFence attributes codeAttributes) child)
      (hcontent : ∀ strs, nodeToTaggedStrings parser child (ctx.inFence attributes codeAttributes) = .ok strs →
        NoneNil strs)
      (hnext : Careful filled parser ctx next) :
      Careful filled parser ctx
        (.node (.element .pre attributes) (.node (.element .code codeAttributes) child rest) next)
  | pre {ctx : Context} {attributes : Attributes} {child next : Node}
      (hfence : ∀ codeAttributes codeChild rest, child ≠ .node (.element .code codeAttributes) codeChild rest)
      (hchild : Careful filled parser (ctx.inPre attributes) child)
      (hcontent : ∀ strs, nodeToTaggedStrings parser child (ctx.inPre attributes) = .ok strs → NoneNil strs)
      (hnext : Careful filled parser ctx next) : Careful filled parser ctx (.node (.element .pre attributes) child next)
  | element {ctx : Context} {tag : Tag} {attributes : Attributes} {child next : Node}
      (htag : tag ≠ .br ∧ tag ≠ .hr ∧ tag ≠ .pre)
      (hchild : Careful filled parser (ctx.withTag ⟨tag, attributes, false⟩) child)
      (hcontent : ∀ strs, nodeToTaggedStrings parser child (ctx.withTag ⟨tag, attributes, false⟩) = .ok strs →
        CarefulContent filled parser (ctx.withTag ⟨tag, attributes, false⟩) tag attributes strs)
      (hnext : Careful filled parser ctx next) : Careful filled parser ctx (.node (.element tag attributes) child next)

def GoodTagged (filled : Prop) (around : List BodyRangeValue) (str : TaggedString) : Prop :=
  ∀ es ∈ str.entityString, Good filled around es

theorem shownStyles_withTag (ctx : Context) (e : Element) (h : e.isFence = false) :
    shownStyles (ctx.withTag e).elements = shownStyles ctx.elements ++ valuesOf e := by
  simp [shownStyles, Context.withTag, enclosingStyles, h, valuesOf]

theorem shownStyles_withFence (ctx : Context) (e : Element) (h : e.isFence = true) :
    shownStyles (ctx.withTag e).elements = shownStyles ctx.elements := by
  simp [shownStyles, Context.withTag, h]

theorem shownStyles_inPre (ctx : Context) (attributes : Attributes) :
    shownStyles (ctx.inPre attributes).elements = shownStyles ctx.elements := by
  have htag := shownStyles_withTag ctx ⟨.pre, attributes, false⟩ rfl
  exact htag.trans (List.append_nil _)

theorem shownStyles_inFence (ctx : Context) (attributes codeAttributes : Attributes) :
    shownStyles (ctx.inFence attributes codeAttributes).elements = shownStyles ctx.elements := by
  have hfence := shownStyles_withFence (ctx.inPre attributes) ⟨.code, codeAttributes, true⟩ rfl
  exact hfence.trans (shownStyles_inPre ctx attributes)

section Elements

variable {tag : Tag} {attributes : Attributes} {strs : List TaggedString} {outlines : List Outline}
  {children : Context → Except Panic (List TaggedString)} {p : Prop} {P : List TaggedString → Prop}

theorem isNone_tagAwareString (strs : List TaggedString) :
    (tagAwareString strs).isNone = awareNil (strs.map outline) := by
  have hfold (output : Option EntityString) : (strs.foldl appendTagged output).isNone =
      (output.isNone && awareNil (strs.map outline)) := by
    induction strs generalizing output with
    | nil => simp [awareNil]
    | cons str strs ih =>
      rw [List.foldl_cons, ih]
      cases output <;> by_cases hblock : str.tag.any isBlockTag = true <;>
        simp [appendTagged, awareNil, outline, hblock]
  rw [tagAwareString, Option.isNone_map, hfold]
  rfl

theorem isNone_formatted (e : Element) (str : Option EntityString) : (formatted e str).isNone = str.isNone := by
  unfold formatted
  split
  · exact Option.isNone_map
  · rfl

theorem present_iff : Present (strs.map outline) ↔ NoneNil strs := by
  simp [Present, NoneNil, outline, Option.isSome_iff_ne_none]

theorem awareNil_eq_false_iff : awareNil (strs.map outline) = false ↔ tagAwareString strs ≠ none := by
  simp [← isNone_tagAwareString, Option.isSome_iff_ne_none]

theorem contentRenders_ol : ContentRenders parser (linkTarget parser ctx) .ol attributes
    (strs.map outline) ↔
      (true → listStart parser true attributes - 1 + .ofNat strs.length ≠ Int64.minValue) ∧
        NumbersFit true (listStart parser true attributes) strs := by
  rw [ContentRenders, List.length_map, List.countP_map]
  exact ⟨fun h => ⟨fun _ => h.1, fun _ => h.2⟩, fun h => ⟨h.1 rfl, h.2 rfl⟩⟩

theorem goodTagged_some {es : EntityString} {tag : Option Tag} (h : Good filled around es) :
    GoodTagged filled around ⟨some es, tag⟩ := by
  rintro es' ⟨⟩
  exact h

theorem shownStyles_plain (h : (Element.mk tag attributes false).style = none) :
    shownStyles (ctx.withTag ⟨tag, attributes, false⟩).elements = shownStyles ctx.elements := by
  have hnone : valuesOf ⟨tag, attributes, false⟩ = [] := by
    simp [valuesOf, enclosingStyles, h]
  rw [shownStyles_withTag ctx _ rfl, hnone, List.append_nil]

variable (filled) in
-- An element is rendered if its children are and it finds what it needs in them, and their ranges then stay right.
theorem settles_tagToString (fence : Option (Attributes × (Context → Except Panic (List TaggedString))))
    (htag : tag ≠ .br ∧ tag ≠ .hr ∧ tag ≠ .pre)
    (hchildren : Settles (children (ctx.withTag ⟨tag, attributes, false⟩)) p P)
    (hP : ∀ strs, P strs → strs.map outline = outlines) :
    Settles (tagToString parser ctx tag attributes children fence)
      (p ∧ ContentRenders parser (linkTarget parser ctx) tag attributes outlines) fun es => ∃ strs, P strs ∧
        es.isNone = ((isInline tag || tag = .a) && awareNil outlines) ∧
        ((∀ str ∈ strs, GoodTagged filled (shownStyles (ctx.withTag ⟨tag, attributes, false⟩).elements) str) →
          CarefulContent filled parser (ctx.withTag ⟨tag, attributes, false⟩) tag attributes strs →
            GoodTagged filled (shownStyles ctx.elements) ⟨es, some tag⟩) := by
  cases tag with
  | br => exact absurd rfl htag.1
  | hr => exact absurd rfl htag.2.1
  | pre => exact absurd rfl htag.2.2
  | blockquote =>
    refine .congr (and_iff_left trivial) (hchildren.map fun strs hstrs => ⟨strs, hstrs, rfl, fun hgood hcare => ?_⟩)
    rw [shownStyles_plain rfl] at hgood
    refine goodTagged_some (good_blockquoteToString (good_tagAwareString hgood (hcare.trims rfl)) fun es hes => ?_)
    obtain ⟨before, -, rfl⟩ := Option.map_eq_some_iff.mp hes
    exact fun hne => absurd before.cutStart_trimSpace hne
  | ol =>
    refine hchildren.bind fun strs hstrs => ?_
    rw [← hP strs hstrs]
    refine .congr contentRenders_ol
      ((settles_listToString filled (shownStyles ctx.elements) parser true attributes strs).map fun es hes => ?_)
    refine ⟨strs, hstrs, rfl, fun hgood _ => goodTagged_some (hes ?_)⟩
    rwa [shownStyles_plain rfl] at hgood
  | ul =>
    refine hchildren.bind fun strs hstrs => .congr ?_
      ((settles_listToString filled (shownStyles ctx.elements) parser false attributes strs).map fun es hes => ?_)
    · simp [ContentRenders, NumbersFit]
    · refine ⟨strs, hstrs, rfl, fun hgood _ => goodTagged_some (hes ?_)⟩
      rwa [shownStyles_plain rfl] at hgood
  | header level =>
    refine hchildren.bind fun strs hstrs => ?_
    rw [← hP strs hstrs]
    refine .congr present_iff ((settles_plainString filled (shownStyles ctx.elements ++ [.style SignalFormat.styleBold])
      strs).map fun content hcont => ⟨strs, hstrs, rfl, fun hgood _ => goodTagged_some ?_⟩)
    rw [shownStyles_withTag ctx _ rfl] at hgood
    exact good_headerToString (hcont hgood)
  | a =>
    refine hchildren.bind fun strs hstrs => ?_
    rw [← hP strs hstrs]
    refine .congr (imp_congr_right fun _ => awareNil_eq_false_iff)
      ((settles_linkToString filled (shownStyles ctx.elements) parser _ _ _).imp fun es _ hes => ?_)
    refine ⟨strs, hstrs, hes.1.trans (isNone_tagAwareString strs), fun hgood hcare => hes.2 ?_⟩
    rw [shownStyles_plain rfl] at hgood
    exact good_tagAwareString hgood (hcare.trims rfl)
  | _ =>
    rw [tagToString_inline parser ctx attributes children fence rfl]
    refine .congr (and_iff_left trivial) (hchildren.map fun strs hstrs => ⟨strs, hstrs, ?_, fun hgood hcare => ?_⟩)
    · rw [isNone_formatted, isNone_tagAwareString, hP strs hstrs]
      rfl
    · rw [shownStyles_withTag ctx _ rfl] at hgood
      exact good_formatted (good_tagAwareString hgood (hcare.trims rfl)) fun hfilled => hcare.full hfilled rfl

end Elements

theorem good_pre (language : String) {strs : List TaggedString} (hnil : NoneNil strs)
    (hgood : ∀ str ∈ strs, GoodTagged filled around str) :
    ∃ content, plainString strs = .ok content ∧
      GoodTagged filled around ⟨some (preToString language content), some .pre⟩ := by
  obtain ⟨content, hcont, hplain⟩ := (settles_plainString filled around strs).exists_ok hnil
  exact ⟨content, hcont, goodTagged_some (good_preToString language (hplain hgood))⟩

def fenceChildren (parser : HTMLParser) :
    Node → Option (Attributes × (Context → Except Panic (List TaggedString)))
  | .node (.element .code codeAttributes) codeChild _ => some (codeAttributes, nodeToTaggedStrings parser codeChild)
  | _ => none

theorem nodeToTaggedStrings_node (parser : HTMLParser) (type : NodeType) (child next : Node) (ctx : Context) :
    nodeToTaggedStrings parser (.node type child next) ctx = (do
      let str ← singleNodeToString parser ctx type (nodeToTaggedStrings parser child) (fenceChildren parser child)
      let strs ← nodeToTaggedStrings parser next ctx
      pure (str :: strs)) := by
  rw [nodeToTaggedStrings.eq_def]
  rfl

theorem good_node {type : NodeType} {child next : Node}
    (hsingle : ∃ str, singleNodeToString parser ctx type (nodeToTaggedStrings parser child)
      (fenceChildren parser child) = .ok str ∧ GoodTagged filled around str)
    (hnext : ∃ strs, nodeToTaggedStrings parser next ctx = .ok strs ∧ ∀ str ∈ strs, GoodTagged filled around str) :
    ∃ strs, nodeToTaggedStrings parser (.node type child next) ctx = .ok strs ∧
      ∀ str ∈ strs, GoodTagged filled around str := by
  obtain ⟨str, hstr, hgood⟩ := hsingle
  obtain ⟨strs, hstrs, hgoods⟩ := hnext
  refine ⟨str :: strs, ?_, List.forall_mem_cons.mpr ⟨hgood, hgoods⟩⟩
  rw [nodeToTaggedStrings_node, hstr, hstrs]
  rfl

theorem good_nodeToTaggedStrings {node : Node} (h : Careful filled parser ctx node) :
    ∃ strs, nodeToTaggedStrings parser node ctx = .ok strs ∧
      ∀ str ∈ strs, GoodTagged filled (shownStyles ctx.elements) str := by
  induction h with
  | nil ctx => exact ⟨[], rfl, fun _ hstr => (nomatch hstr)⟩
  | text hnext ihNext => exact good_node ⟨_, rfl, goodTagged_some (EntityString.good_ofUnits _ _)⟩ ihNext
  | other hnext ihNext => exact good_node ⟨_, rfl, goodTagged_some EntityString.good_empty⟩ ihNext
  | document hchild htrims hnext ihChild ihNext =>
    obtain ⟨strs, hstrs, hgood⟩ := ihChild
    refine good_node ⟨⟨tagAwareString strs, none⟩, ?_, good_tagAwareString hgood (htrims strs hstrs)⟩ ihNext
    rw [singleNodeToString, hstrs]
    rfl
  | empty htag hnext ihNext =>
    rcases htag with rfl | rfl
    · exact good_node ⟨⟨some (.new "\n"), some .br⟩, rfl, goodTagged_some (EntityString.good_new "\n")⟩ ihNext
    · exact good_node ⟨⟨some (.new "---"), some .hr⟩, rfl, goodTagged_some (EntityString.good_new "---")⟩ ihNext
  | @fence ctx attributes codeAttributes child rest next hchild hcont hnext ihChild ihNext =>
    obtain ⟨strs, hstrs, hgood⟩ := ihChild
    obtain ⟨content, hplain, hpre⟩ := good_pre (language codeAttributes) (hcont strs hstrs) hgood
    rw [shownStyles_inFence] at hpre
    refine good_node ⟨_, ?_, hpre⟩ ihNext
    rw [Context.inFence] at hstrs
    simp [singleNodeToString, tagToString, fenceChildren, hstrs, bind, Except.bind, hplain, pure, Except.pure]
  | @pre ctx attributes child next hfence hchild hcont hnext ihChild ihNext =>
    obtain ⟨strs, hstrs, hgood⟩ := ihChild
    obtain ⟨content, hplain, hpre⟩ := good_pre "" (hcont strs hstrs) hgood
    rw [shownStyles_inPre] at hpre
    have hnone : fenceChildren parser child = none := by
      unfold fenceChildren
      split
      · exact absurd rfl (hfence _ _ _)
      · rfl
    refine good_node ⟨_, ?_, hpre⟩ ihNext
    rw [Context.inPre] at hstrs
    simp [singleNodeToString, tagToString, hnone, hstrs, bind, Except.bind, hplain, pure, Except.pure]
  | element htag hchild hcont hnext ihChild ihNext =>
    obtain ⟨strs, hstrs, hgood⟩ := ihChild
    have hcare := hcont strs hstrs
    obtain ⟨es, hes, _, rfl, -, htagged⟩ :=
      (settles_tagToString filled _ htag (.of_ok hstrs) fun _ heq => heq ▸ rfl).exists_ok
      ⟨trivial, hcare.renders⟩
    refine good_node ⟨⟨es, _⟩, ?_, htagged hgood hcare⟩ ihNext
    rw [singleNodeToString, hes]
    rfl

theorem shownStyles_of_no_fence {elements : List Element} (h : ∀ e ∈ elements, e.isFence = false) :
    shownStyles elements = enclosingStyles elements := by
  rw [shownStyles, List.filter_eq_self.mpr fun e he => by rw [h e he]; rfl]

def sampleParser : HTMLParser where
  getUUIDFromMXID _ := .nil
  parseUserLink _ := none
  atoi _ := 0
  log10Floor := Nat.log 10

def textNode (data : String) (next : Node) : Node := .node (.text data) .nil next
def elementNode (tag : Tag) (child next : Node) : Node := .node (.element tag []) child next

def sampleQuote : Node :=
  elementNode (.header 0) (textNode "a " .nil)
    (elementNode .blockquote (elementNode .b (textNode "b" (elementNode .br .nil (textNode "c " .nil))) .nil) .nil)

instance (es : EntityString) : Decidable es.TrimsWell := inferInstanceAs (Decidable (_ → _))

theorem careful_sampleQuote : Careful True sampleParser (newContext none) sampleQuote := by
  refine .element (by decide) (.text (.nil _)) ?_ (.element (by decide) (.element (by decide)
    (.text (.empty (.inl rfl) (.text (.nil _)))) ?_ (.nil _)) ?_ (.nil _))
  · rintro strs ⟨⟩
    refine ⟨?_, nofun, nofun⟩
    rintro str hstr
    cases List.mem_singleton.mp hstr
    rfl
  · rintro strs ⟨⟩
    refine ⟨trivial, ?_, ?_⟩
    · rintro - es ⟨⟩
      decide +kernel
    · rintro - - - es ⟨⟩
      decide +kernel
  · rintro strs ⟨⟩
    refine ⟨trivial, ?_, nofun⟩
    rintro - es ⟨⟩
    decide +kernel

-- The code that starts a pre element is not shown as monospace.
example : (do
    let es ← (parse sampleParser (elementNode .pre (elementNode .code (textNode "x" .nil) .nil) .nil)
      (newContext none)).toOption.join
    let u ← es.string[4]?
    let elements ← u.origin
    pure (BodyRange.covering es.entities 4, enclosingStyles elements)) =
      some ([], [.style SignalFormat.styleMonospace]) := rfl

def spacedHeading (next : Node) : Node := elementNode (.header 0) (textNode "x " .nil) next

end MautrixSignal.MatrixFormat
