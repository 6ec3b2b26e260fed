import MautrixSignal.Lib.Collect
import MautrixSignal.MatrixFormat.Coverage

namespace MautrixSignal.MatrixFormat

open Lib

section Lists

variable {parser : HTMLParser} {ordered : Bool} {indentLength : Nat} {counter : Int64}
  {children : List TaggedString}

-- The items with numbers that do not wrap around. How they are indented is left open.
def numberedItems (indentLength : Nat) (padding : Int → Nat) : Int → List TaggedString → List EntityString
  | _, [] => []
  | number, child :: rest =>
    if child.tag = some .li then
      (match ((EntityString.new (toString number ++ ". " ++ spaces (padding number))).appendMaybe
          child.entityString).split with
      | [] => []
      | first :: parts => first :: parts.map fun part => (EntityString.new (spaces (indentLength + 2))).append part) ++
        numberedItems indentLength padding (number + 1) rest
    else numberedItems indentLength padding number rest

theorem toInt_next (h : counter + 1 ≠ Int64.minValue) : (counter + 1).toInt = counter.toInt + 1 := by
  have hlow := counter.le_toInt
  have hhigh := counter.toInt_lt
  have hne : (counter + 1).toInt ≠ Int64.minValue.toInt := fun heq => h (Int64.toInt_inj.mp heq)
  rw [Int64.toInt_add, Int.bmod_def] at hne ⊢
  simp at hne ⊢
  omega

def itemPadding (parser : HTMLParser) (indentLength : Nat) (number : Int) : Nat :=
  indentLength - (digits parser (.ofInt number)).toOption.getD 0

theorem listItems_numbered {number : Int} (hfit : NumbersFit true counter children)
    (hnumber : children.any (fun child => child.tag = some .li) = true → counter.toInt = number) :
    listItems parser true indentLength counter children =
      .ok (numberedItems indentLength (itemPadding parser indentLength) number children) := by
  induction children generalizing counter number with
  | nil => rfl
  | cons child rest ih =>
    unfold listItems numberedItems
    by_cases hli : child.tag = some .li
    · obtain ⟨hfirst, hrest⟩ := (numbersFit_item hli).mp hfit
      obtain rfl := hnumber (List.any_eq_true.mpr ⟨child, List.mem_cons_self, decide_eq_true hli⟩)
      obtain ⟨itemPrefix, hlabel⟩ := listPrefix_isOk parser indentLength hfirst
      obtain ⟨first, parts, hsplit, hitem⟩ := listItem_eq parser indentLength hlabel child.entityString
      obtain ⟨width, hwidth⟩ := digits_isOk parser (hfirst rfl)
      have hnext : rest.any (fun child => child.tag = some .li) = true →
          (counter + 1).toInt = counter.toInt + 1 := by
        intro hany
        have hne := hrest rfl 0 (List.countP_pos_iff.mpr (List.any_eq_true.mp hany))
        exact toInt_next (by simpa using hne)
      simp only [listPrefix, if_true, hwidth, bind, Except.bind, pure, Except.pure, Except.ok.injEq] at hlabel
      simp only [if_pos hli, hitem, ih hrest hnext, bind, Except.bind, pure, Except.pure, itemPadding,
        Int64.ofInt_toInt, hwidth,
        Except.toOption, Option.getD_some, hlabel, hsplit]
    · rw [if_neg hli, if_neg hli]
      refine ih ((numbersFit_other hli).mp hfit) fun hany => hnumber ?_
      rw [List.any_cons, hany, Bool.or_true]

-- The function fails only where the number of digits of the smallest integer is asked for, so that no number wraps
-- around before that.
theorem listToString_numbered_iff (parser : HTMLParser) (attributes : Attributes) (children : List TaggedString) :
    (∃ indentLength padding, listToString parser true attributes children =
      .ok (EntityString.join (.new "\n")
        (numberedItems indentLength padding (listStart parser true attributes).toInt children))) ↔
    listStart parser true attributes - 1 + .ofNat children.length ≠ Int64.minValue ∧
      NumbersFit true (listStart parser true attributes) children := by
  constructor
  · rintro ⟨indentLength, padding, h⟩
    obtain ⟨hlongest, hfit⟩ := (settles_listToString True [] parser true attributes children).isOk_iff.mp ⟨_, h⟩
    exact ⟨hlongest rfl, hfit⟩
  · rintro ⟨hlongest, hfit⟩
    obtain ⟨width, hwidth⟩ := digits_isOk parser hlongest
    refine ⟨width, itemPadding parser width, ?_⟩
    simp only [listToString, listIndent, if_true, hwidth, listItems_numbered hfit fun _ => rfl, bind, Except.bind]
    rfl

def smallestStart : HTMLParser := { sampleParser with atoi := fun _ => Int64.minValue }

-- The smallest integer is its own negation, so Digits calls itself without end.
theorem smallest_start_overflows :
    listToString smallestStart true [("start", "-9223372036854775808")] [⟨some (.new "a"), some .li⟩] =
      .error .stackOverflow := rfl

end Lists

def NodeType.outline (type : NodeType) (children : List Outline) : Outline :=
  match type with
  | .text _ | .other => (none, false)
  | .document => (none, awareNil children)
  | .element tag _ => (some tag, (isInline tag || tag = .a) && awareNil children)

def Node.outlines : Node → List Outline
  | .nil => []
  | .node type child next => type.outline child.outlines :: next.outlines

def Node.Renders (parser : HTMLParser) (target : String → LinkTarget) : Node → Prop
  | .nil => True
  | .node type child next =>
    (match type with
    | .text _ | .other => True
    | .document => child.Renders parser target
    | .element tag attributes =>
      if tag = .br ∨ tag = .hr then True
      else if tag = .pre then
        match child with
        | .node (.element .code _) codeChild _ => codeChild.Renders parser target ∧ Present codeChild.outlines
        | child => child.Renders parser target ∧ Present child.outlines
      else child.Renders parser target ∧ ContentRenders parser target tag attributes child.outlines) ∧
    next.Renders parser target

section Nodes

variable {parser : HTMLParser} {ctx : Context} {strs : List TaggedString} {outlines : List Outline}

theorem settles_pre (language : String) {p : Prop} {x : Except Panic (List TaggedString)}
    (h : Settles x p fun strs => strs.map TaggedString.outline = outlines) :
    Settles (do
      let strs ← x
      let content ← plainString strs
      pure (some (preToString language content))) (p ∧ Present outlines) fun es => es.isNone = false := by
  refine h.bind fun strs hstrs => ?_
  subst hstrs
  exact .congr present_iff ((settles_plainString True [] strs).map fun _ _ => rfl)

theorem settles_nodeToTaggedStrings (parser : HTMLParser) : ∀ (node : Node) (ctx : Context),
    Settles (nodeToTaggedStrings parser node ctx) (node.Renders parser (linkTarget parser ctx))
      fun strs => strs.map TaggedString.outline = node.outlines
  | .nil, _ => ⟨trivial, rfl⟩
  | .node type child next, ctx => by
    have hchild := settles_nodeToTaggedStrings parser child
    have hnode {p : Prop} (hsingle : Settles (singleNodeToString parser ctx type (nodeToTaggedStrings parser child)
        (fenceChildren parser child)) p fun str => str.outline = type.outline child.outlines) :
        Settles (nodeToTaggedStrings parser (.node type child next) ctx)
          (p ∧ next.Renders parser (linkTarget parser ctx))
          fun strs => strs.map TaggedString.outline = (Node.node type child next).outlines := by
      rw [nodeToTaggedStrings_node]
      refine hsingle.bind fun str hstr => (settles_nodeToTaggedStrings parser next ctx).map fun strs hstrs => ?_
      rw [List.map_cons, hstr, hstrs]
      rfl
    cases type with
    | text data | other => exact hnode ⟨trivial, rfl⟩
    | document =>
      exact hnode ((hchild ctx).map fun strs hstrs => Prod.ext rfl ((isNone_tagAwareString strs).trans (hstrs ▸ rfl)))
    | element tag attributes =>
      rw [Node.Renders.eq_def]
      dsimp only
      by_cases hemp : tag = .br ∨ tag = .hr
      · rw [if_pos hemp]
        rcases hemp with rfl | rfl <;> exact hnode ⟨trivial, rfl⟩
      rw [if_neg hemp]
      by_cases hpre : tag = .pre
      · rw [if_pos hpre]
        subst hpre
        split
        · rename_i codeAttributes codeChild rest
          have hcode := settles_nodeToTaggedStrings parser codeChild (ctx.inFence attributes codeAttributes)
          exact hnode ((settles_pre (language codeAttributes) hcode).map fun _ hes => Prod.ext rfl hes)
        · rename_i hfence
          have hnone : fenceChildren parser child = none := by
            unfold fenceChildren
            split
            · exact absurd rfl (hfence _ _ _)
            · rfl
          rw [hnone] at hnode
          exact hnode ((settles_pre "" (hchild (ctx.inPre attributes))).map fun _ hes => Prod.ext rfl hes)
      · rw [if_neg hpre]
        rw [not_or] at hemp
        refine hnode ((settles_tagToString True _ ⟨hemp.1, hemp.2, hpre⟩ (hchild _) fun _ hstrs => hstrs).map ?_)
        rintro _ ⟨_, _, hes, _⟩
        exact Prod.ext rfl hes

-- Rendering fails only at the nodes that Renders excludes, whatever surrounds them.
theorem parse_returns_iff (parser : HTMLParser) (node : Node) (ctx : Context) :
    (∃ result, parse parser node ctx = .ok result) ↔ node.Renders parser (linkTarget parser ctx) :=
  ((settles_nodeToTaggedStrings parser node ctx).map (R := fun _ => True) fun _ _ => trivial).isOk_iff

-- A link without children has a nil string, which is compared with the target.
theorem empty_link_panics :
    parse sampleParser (.node (.element .a [("href", "a")]) .nil .nil) (newContext none) =
      .error .nilDereference := rfl

end Nodes

end MautrixSignal.MatrixFormat
