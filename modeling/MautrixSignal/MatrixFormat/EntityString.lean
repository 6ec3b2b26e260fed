import MautrixSignal.SignalFormat
import Mathlib.Data.List.DropRight

namespace MautrixSignal.MatrixFormat

open SignalFormat (BodyRange BodyRangeValue Style UTF16String)

inductive Tag
  | blockquote | ol | ul | header (level : Fin 6) | br | b | strong | i | em | s | strike | del | u | ins | tt | code
  | span | font | a | p | hr | pre | li | div | table | other (name : String)
deriving DecidableEq

abbrev Attributes := List (String × String)

structure Element where
  tag : Tag
  attributes : Attributes := []
  isFence : Bool := false

-- A UTF-16 code unit with the elements around its text node, the outermost first. The parser does not look at
-- them, and what it inserts itself has none.
structure CodeUnit where
  code : UInt16
  origin : Option (List Element) := none

def encodeChar (c : Char) : UTF16String :=
  if c.toNat < 0x10000 then [.ofNat c.toNat]
  else [.ofNat (0xd800 + (c.toNat - 0x10000) / 0x400), .ofNat (0xdc00 + (c.toNat - 0x10000) % 0x400)]

def newUTF16String (val : String) : UTF16String := val.toList.flatMap encodeChar

-- utf16.Decode. A surrogate without its other half is replaced.
def decodeUnits : List Nat → List Char
  | [] => []
  | [a] => [if 0xd800 ≤ a ∧ a < 0xe000 then .ofNat 0xfffd else .ofNat a]
  | a :: b :: rest =>
    if 0xd800 ≤ a ∧ a < 0xdc00 ∧ 0xdc00 ≤ b ∧ b < 0xe000 then
      .ofNat (0x10000 + (a - 0xd800) * 0x400 + (b - 0xdc00)) :: decodeUnits rest
    else (if 0xd800 ≤ a ∧ a < 0xe000 then .ofNat 0xfffd else .ofNat a) :: decodeUnits (b :: rest)

structure EntityString where
  string : List CodeUnit := []
  entities : List (BodyRange BodyRangeValue) := []

def isSpace (u : CodeUnit) : Bool := u.code ∈ [0x09, 0x0a, 0x0b, 0x0c, 0x0d, 0x20, 0x85, 0xa0]

def newline : UInt16 := 0x0a

namespace EntityString

def ofUnits (units : UTF16String) (origin : Option (List Element)) : EntityString where
  string := units.map fun code => ⟨code, origin⟩

def new (val : String) : EntityString := ofUnits (newUTF16String val) none

variable (es : EntityString)

def toString : String := String.ofList (decodeUnits (es.string.map fun u => u.code.toNat))

def format (value : BodyRangeValue) : EntityString :=
  { es with entities := ⟨0, es.string.length, value⟩ :: es.entities }

def append (other : EntityString) : EntityString where
  string := es.string ++ other.string
  entities := es.entities ++ other.entities.map fun e => e.offset es.string.length

-- Append to a string that is not nil, of one that may be.
def appendMaybe : Option EntityString → EntityString
  | none => es
  | some other => es.append other

-- The part of a range between two positions. The condition under which the source looks at a range always holds.
def cutRange (prevSplit i : Nat) (e : BodyRange BodyRangeValue) : Option (BodyRange BodyRangeValue) :=
  if (e.stop ≤ i ∨ e.stop > prevSplit) ∧ (e.start ≥ prevSplit ∨ e.start < i) then
    let e := ((e.truncateStart prevSplit).truncateEnd i).offset (-prevSplit)
    if e.length > 0 then some e else none
  else none

def cut (prevSplit i : Nat) : EntityString where
  string := (es.string.take i).drop prevSplit
  entities := es.entities.filterMap (cutRange prevSplit i)

-- The loop of Split over what is left of the string, from position i on, with the last split.
def splitLoop (es : EntityString) (separator : UInt16) : List CodeUnit → Nat → Nat → List EntityString × Nat
  | [], _, prevSplit => ([], prevSplit)
  | u :: rest, i, prevSplit =>
    if u.code = separator then
      let (output, last) := es.splitLoop separator rest (i + 1) (i + 1)
      (es.cut prevSplit i :: output, last)
    else es.splitLoop separator rest (i + 1) prevSplit

-- Split panics for a separator that is not ASCII. The only one that it is called with is the newline.
def split (separator : UInt16 := newline) : List EntityString :=
  let (output, prevSplit) := es.splitLoop separator es.string 0 0
  if prevSplit = 0 then [es]
  else if prevSplit ≠ es.string.length then output ++ [es.cut prevSplit es.string.length]
  else output

def cutStart : Nat := (es.string.takeWhile isSpace).length

def cutEnd : Nat := es.cutStart + ((es.string.dropWhile isSpace).rdropWhile isSpace).length

-- The ranges are cut off at the end in the old string, not at the end in the new one.
def trimSpace : EntityString :=
  if es.cutEnd = es.cutStart then {}
  else if es.cutStart = 0 ∧ es.cutEnd = es.string.length then es
  else
    { string := (es.string.take es.cutEnd).drop es.cutStart
      entities := (es.entities.map fun e => (e.offset (-es.cutStart)).truncateEnd es.cutEnd).filter
        fun e => e.length > 0 }

def joinStep (separator acc es : EntityString) : EntityString :=
  if es.string = [] then acc else (acc.append es).append separator

def join (separator : EntityString) (strings : List EntityString) : EntityString :=
  strings.foldl (joinStep separator) {}

end EntityString

end MautrixSignal.MatrixFormat
