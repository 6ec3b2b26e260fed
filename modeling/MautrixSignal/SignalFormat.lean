import MautrixSignal.Identifiers
import MautrixSignal.SignalFormat.Tree
import Mathlib.Data.List.Dedup

namespace MautrixSignal.SignalFormat

abbrev UTF16String := List UInt16

structure UserInfo where
  mxid : String
  name : String
deriving DecidableEq

-- Styles are numbers, of which these have a name.
abbrev Style := Int

def styleBold : Style := 1
def styleItalic : Style := 2
def styleSpoiler : Style := 3
def styleStrikethrough : Style := 4
def styleMonospace : Style := 5

inductive BodyRangeValue
  | style (style : Style)
  | mention (userInfo : UserInfo) (uuid : UUID)
deriving DecidableEq

inductive AssociatedValue
  | style (style : Style)
  | mentionAci (text : String)
  | mentionAciBinary (bytes : Bytes)
  | other

structure SignalRange where
  start : UInt32
  length : UInt32
  associatedValue : AssociatedValue

structure FormatParams where
  getUserInfo : UUID → UserInfo
  parseUUID : String → Option UUID
  encode : String → UTF16String
  decode : UTF16String → String
  textToHTML : String → String
  escapeString : String → String
  matrixToURL : String → String

def SignalRange.Before (a b : SignalRange) : Prop :=
  a.start < b.start ∨ (a.start = b.start ∧ b.length ≤ a.length)

-- slices.SortFunc. It may leave equal ranges in any order.
structure SortFunc where
  run : List SignalRange → List SignalRange
  perm : ∀ ranges, (run ranges).Perm ranges
  sorted : ∀ ranges, (run ranges).Pairwise SignalRange.Before

instance (a b : SignalRange) : Decidable (a.Before b) := inferInstanceAs (Decidable (_ ∨ _))

theorem SignalRange.before_trans {a b c : SignalRange} (hab : a.Before b) (hbc : b.Before c) : a.Before c := by
  unfold SignalRange.Before at *
  simp only [UInt32.lt_iff_toNat_lt, UInt32.le_iff_toNat_le, ← UInt32.toNat_inj] at *
  omega

theorem SignalRange.before_total (a b : SignalRange) : a.Before b ∨ b.Before a := by
  unfold SignalRange.Before
  simp only [UInt32.lt_iff_toNat_lt, UInt32.le_iff_toNat_le, ← UInt32.toNat_inj]
  omega

def SortFunc.stable : SortFunc where
  run ranges := ranges.mergeSort fun a b => a.Before b
  perm ranges := List.mergeSort_perm ranges _
  sorted ranges := by
    have htrans : ∀ a b c : SignalRange, decide (a.Before b) = true → decide (b.Before c) = true →
        decide (a.Before c) = true := fun a b c hab hbc =>
      decide_eq_true (SignalRange.before_trans (of_decide_eq_true hab) (of_decide_eq_true hbc))
    have htotal : ∀ a b : SignalRange, (decide (a.Before b) || decide (b.Before a)) = true := by
      intro a b
      simpa using SignalRange.before_total a b
    have h := List.pairwise_mergeSort htrans htotal ranges
    exact h.imp fun hbef => of_decide_eq_true hbef

section Parse

variable (params : FormatParams)

-- strings.Replace with a limit of one.
def replaceFirst (chars : List Char) (old : Char) (new : List Char) : List Char :=
  match chars with
  | [] => []
  | c :: rest => if c = old then new ++ rest else c :: replaceFirst rest old new

def replaceObject (text name : String) : String :=
  String.ofList (replaceFirst text.toList (Char.ofNat 0xfffc) name.toList)

def Style.format (style : Style) (message : String) : String :=
  if style = styleBold then "<strong>" ++ message ++ "</strong>"
  else if style = styleItalic then "<em>" ++ message ++ "</em>"
  else if style = styleSpoiler then "<span data-mx-spoiler>" ++ message ++ "</span>"
  else if style = styleStrikethrough then "<del>" ++ message ++ "</del>"
  else if style = styleMonospace then
    if '\n' ∈ message.toList then "<pre><code>" ++ message ++ "</code></pre>"
    else "<code>" ++ message ++ "</code>"
  else message

def BodyRangeValue.format (value : BodyRangeValue) (message : String) : String :=
  match value with
  | .style s => Style.format s message
  | .mention userInfo _ =>
    "<a href=\"" ++ params.matrixToURL userInfo.mxid ++ "\">" ++ replaceObject message userInfo.name ++ "</a>"

def textToHTML (isInCodeblock : Bool) (message : UTF16String) : String :=
  if isInCodeblock then params.escapeString (params.decode message) else params.textToHTML (params.decode message)

-- message[low:high], or a panic. An index between the length and the capacity counts as one too.
def slice (message : UTF16String) (low high : Int) : Option UTF16String :=
  if 0 ≤ low ∧ low ≤ high ∧ high ≤ message.length then
    some ((message.drop low.toNat).take (high - low).toNat)
  else none

-- A range has no value if it mentions the nil UUID.
abbrev RangeTree := LinkedRangeTree (Option BodyRangeValue)

def isMonospace (value : Option BodyRangeValue) : Bool := value = some (.style styleMonospace)

def format : RangeTree → UTF16String → Bool → Option String
  | .nil, message, isInCodeblock => some (textToHTML params isInCodeblock message)
  | .node n sibling child, message, isInCodeblock => do
    let head ← slice message 0 n.start
    let inner ← slice message n.start n.stop
    let tail ← slice message n.stop message.length
    let childMessage ← format child inner (isInCodeblock || isMonospace n.value)
    -- a nil value cannot be formatted
    let value ← n.value
    let siblingMessage ← format sibling tail isInCodeblock
    some (textToHTML params isInCodeblock head ++ BodyRangeValue.format params value childMessage ++ siblingMessage)

structure Content where
  body : String
  mentions : List String := []
  formattedBody : Option String := none

-- What one range adds to the tree, with the user it mentions. none stands for a range that is skipped.
def rangeValue : AssociatedValue → Option (Option BodyRangeValue × Option UserInfo)
  | .style style => some (some (.style style), none)
  | .mentionAci text => (params.parseUUID text).bind mentionValue
  | .mentionAciBinary bytes => if h : bytes.length = 16 then mentionValue ⟨bytes, h⟩ else none
  | .other => none
where
  mentionValue (uuid : UUID) : Option (Option BodyRangeValue × Option UserInfo) :=
    if uuid = .nil then some (none, none)
    else if (params.getUserInfo uuid).mxid = "" then none
    else some (some (.mention (params.getUserInfo uuid) uuid), some (params.getUserInfo uuid))

def bodyRange (r : SignalRange) (maxLength : Nat) (value : Option BodyRangeValue) :
    BodyRange (Option BodyRangeValue) :=
  BodyRange.truncateEnd ⟨r.start.toNat, r.length.toNat, value⟩ maxLength

def parseRange (maxLength : Nat) (state : RangeTree × Content) (r : SignalRange) : RangeTree × Content :=
  if maxLength ≤ r.start.toNat then state
  else
    match rangeValue params r.associatedValue with
    | none => state
    | some (value, mentioned) =>
      (state.1.add (bodyRange r maxLength value),
        match mentioned with
        | none => state.2
        | some userInfo =>
          { state.2 with
            body := replaceObject state.2.body userInfo.name
            mentions := userInfo.mxid :: state.2.mentions })

def parseRanges (sort : SortFunc) (maxLength : Nat) (content : Content) (ranges : List SignalRange) :
    RangeTree × Content :=
  (sort.run ranges).foldl (parseRange params maxLength) (.nil, content)

-- The result is none if formatting panics.
def parse (sort : SortFunc) (message : String) (ranges : List SignalRange) : Option Content :=
  if ranges = [] then some { body := message }
  else
    let utf16Message := params.encode message
    let parsed := parseRanges params sort utf16Message.length { body := message } ranges
    (format params parsed.1 utf16Message false).map fun html =>
      { parsed.2 with mentions := parsed.2.mentions.dedup, formattedBody := some html }

end Parse

end MautrixSignal.SignalFormat
