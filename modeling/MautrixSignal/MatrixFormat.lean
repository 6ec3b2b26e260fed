import MautrixSignal.MatrixFormat.EntityString

namespace MautrixSignal.MatrixFormat

open EntityString

open SignalFormat (BodyRangeValue UserInfo)

inductive NodeType
  | text (data : String)
  | element (tag : Tag) (attributes : Attributes)
  | document
  | other

-- html.Node by its first child and its next sibling, each of which may be nil.
inductive Node
  | nil
  | node (type : NodeType) (firstChild nextSibling : Node)

inductive Panic
  | nilDereference
  | sliceBounds
  | stackOverflow

-- The elements stand for the tag stack. They are recorded in the text and not looked at otherwise.
structure Context where
  allowedMentions : Option (List String) := none
  elements : List Element := []
  preserveWhitespace : Bool := false

def Context.withTag (ctx : Context) (element : Element) : Context :=
  { ctx with elements := ctx.elements ++ [element] }

def Context.withWhitespace (ctx : Context) : Context := { ctx with preserveWhitespace := true }

def newContext (allowedMentions : Option (List String)) : Context := { allowedMentions }

-- The lookup of users, the user a matrix: or matrix.to link refers to, and the standard library.
structure HTMLParser where
  getUUIDFromMXID : String → UUID
  parseUserLink : String → Option String
  atoi : String → Int64
  log10Floor : Nat → Nat

structure TaggedString where
  entityString : Option EntityString
  tag : Option Tag

def getAttribute (attributes : Attributes) (key : String) : String := (attributes.lookup key).getD ""

def deref {α : Type} : Option α → Except Panic α
  | none => .error .nilDereference
  | some a => .ok a

def joinEntityString (separator : String) (strings : List (Option EntityString)) : Except Panic EntityString := do
  let strings ← strings.mapM deref
  pure (join (.new separator) strings)

section Lists

variable (parser : HTMLParser)

-- The smallest number is its own negation, so that the function calls itself without end.
def digits (num : Int64) : Except Panic Nat :=
  if num = 0 then .ok 1
  else if num < 0 then
    if -num < 0 then .error .stackOverflow else .ok (parser.log10Floor (-num).toInt.toNat + 1 + 1)
  else .ok (parser.log10Floor num.toInt.toNat + 1)

def spaces (count : Nat) : String := String.ofList (List.replicate count ' ')

variable (ordered : Bool) (indentLength : Nat)

def listPrefix (counter : Int64) : Except Panic String :=
  if ordered then do
    let width ← digits parser counter
    pure (toString counter.toInt ++ ". " ++ spaces (indentLength - width))
  else pure "* "

def listItem (counter : Int64) (child : Option EntityString) :
    Except Panic (List EntityString) := do
  let itemPrefix ← listPrefix parser ordered indentLength counter
  match ((new itemPrefix).appendMaybe child).split with
  | [] => .error .sliceBounds
  | first :: rest => pure (first :: rest.map fun part => (new (spaces (indentLength + 2))).append part)

def listItems (ordered : Bool) (indentLength : Nat) : Int64 → List TaggedString → Except Panic (List EntityString)
  | _, [] => pure []
  | counter, child :: rest =>
    if child.tag = some .li then do
      let parts ← listItem parser ordered indentLength counter child.entityString
      let others ← listItems ordered indentLength (counter + 1) rest
      pure (parts ++ others)
    else listItems ordered indentLength counter rest

def listStart (attributes : Attributes) : Int64 :=
  if ordered ∧ getAttribute attributes "start" ≠ "" then parser.atoi (getAttribute attributes "start") else 1

def listIndent (counter : Int64) (count : Nat) : Except Panic Nat :=
  if ordered then digits parser (counter - 1 + .ofNat count) else pure 0

def listToString (attributes : Attributes) (taggedChildren : List TaggedString) :
    Except Panic EntityString := do
  let counter := listStart parser ordered attributes
  let indentLength ← listIndent parser ordered counter taggedChildren.length
  let children ← listItems parser ordered indentLength counter taggedChildren
  pure (join (.new "\n") children)

end Lists

def isBlockTag (tag : Tag) : Bool :=
  match tag with
  | .p | .header _ | .ol | .ul | .pre | .blockquote | .div | .hr | .table => true
  | _ => false

def appendTagged (output : Option EntityString) (str : TaggedString) : Option EntityString :=
  let tstr :=
    if str.tag.any isBlockTag then some (((new "\n").appendMaybe str.entityString).append (.new "\n"))
    else str.entityString
  match output with
  | none => tstr
  | some output => some (output.appendMaybe tstr)

def tagAwareString (strs : List TaggedString) : Option EntityString :=
  (strs.foldl appendTagged none).map trimSpace

def plainString (strs : List TaggedString) : Except Panic EntityString :=
  joinEntityString "" (strs.map TaggedString.entityString)

def basicFormatToString (tag : Tag) (str : Option EntityString) : Option EntityString :=
  match tag with
  | .b | .strong => str.map fun es => es.format (.style SignalFormat.styleBold)
  | .i | .em => str.map fun es => es.format (.style SignalFormat.styleItalic)
  | .s | .del | .strike => str.map fun es => es.format (.style SignalFormat.styleStrikethrough)
  | .tt | .code => str.map fun es => es.format (.style SignalFormat.styleMonospace)
  | _ => str

def spanToString (tag : Tag) (attributes : Attributes) (str : Option EntityString) : Option EntityString :=
  if tag = .span ∧ (attributes.lookup "data-mx-spoiler").isSome then
    str.map fun es => es.format (.style SignalFormat.styleSpoiler)
  else str

def headerToString (level : Fin 6) (content : EntityString) : EntityString :=
  ((new (String.ofList (List.replicate (level + 1) '#') ++ " ")).append content).format
    (.style SignalFormat.styleBold)

variable (str : Option EntityString)

def blockquoteToString : EntityString :=
  let childrenArr := match str with
    | none => []
    | some es => es.trimSpace.split
  join (.new "\n") (childrenArr.map fun child => (new "> ").append child)

inductive LinkTarget
  | text
  | mention (mxid : String) (uuid : UUID)
  | url

variable (parser : HTMLParser) (ctx : Context)

def linkTarget (href : String) : LinkTarget :=
  if href = "" then .text
  else
    match parser.parseUserLink href with
    | some mxid =>
      if ctx.allowedMentions.any fun userIDs => !userIDs.contains mxid then .text
      else if parser.getUUIDFromMXID mxid = .nil then .text
      else .mention mxid (parser.getUUIDFromMXID mxid)
    | none => .url

def linkToString (href : String) (str : Option EntityString) :
    Except Panic (Option EntityString) :=
  match linkTarget parser ctx href with
  | .text => pure str
  | .mention mxid uuid => do
    let es ← deref str
    pure (some ((new "\ufffc").format (.mention ⟨mxid, es.toString⟩ uuid)))
  | .url => do
    let es ← deref str
    pure (some (if es.toString = href then es else es.append (.new (" (" ++ href ++ ")"))))

def language (attributes : Attributes) : String :=
  if "language-".toList.isPrefixOf (getAttribute attributes "class").toList then
    String.ofList ((getAttribute attributes "class").toList.drop "language-".length)
  else ""

def preToString (language : String) (content : EntityString) : EntityString :=
  ((new ("```" ++ language ++ "\n")).append content).append (.new "\n```")

-- The children are rendered in the context they are given. A pre element that starts with a code element takes the
-- children of that one in their place.
def tagToString (tag : Tag) (attributes : Attributes) (children : Context → Except Panic (List TaggedString))
    (fence : Option (Attributes × (Context → Except Panic (List TaggedString)))) :
    Except Panic (Option EntityString) :=
  let ctx := ctx.withTag ⟨tag, attributes, false⟩
  match tag with
  | .blockquote => do
    let strs ← children ctx
    pure (some (blockquoteToString (tagAwareString strs)))
  | .ol | .ul => do
    let strs ← children ctx
    let es ← listToString parser (tag = .ol) attributes strs
    pure (some es)
  | .header level => do
    let strs ← children ctx
    let content ← plainString strs
    pure (some (headerToString level content))
  | .br => pure (some (.new "\n"))
  | .b | .strong | .i | .em | .s | .strike | .del | .u | .ins | .tt | .code => do
    let strs ← children ctx
    pure (basicFormatToString tag (tagAwareString strs))
  | .span | .font => do
    let strs ← children ctx
    pure (spanToString tag attributes (tagAwareString strs))
  | .a => do
    let strs ← children ctx
    linkToString parser ctx (getAttribute attributes "href") (tagAwareString strs)
  | .hr => pure (some (.new "---"))
  | .pre =>
    match fence with
    | some (codeAttributes, codeChildren) => do
      let strs ← codeChildren (ctx.withTag ⟨.code, codeAttributes, true⟩).withWhitespace
      let content ← plainString strs
      pure (some (preToString (language codeAttributes) content))
    | none => do
      let strs ← children ctx.withWhitespace
      let content ← plainString strs
      pure (some (preToString "" content))
  | .p | .li | .div | .table | .other _ => do
    let strs ← children ctx
    pure (tagAwareString strs)

def textToString (data : String) : EntityString :=
  let data := if ctx.preserveWhitespace then data else String.ofList (data.toList.filter (· ≠ '\n'))
  .ofUnits (newUTF16String data) (some ctx.elements)

def singleNodeToString (type : NodeType) (children : Context → Except Panic (List TaggedString))
    (fence : Option (Attributes × (Context → Except Panic (List TaggedString)))) : Except Panic TaggedString :=
  match type with
  | .text data => pure ⟨some (textToString ctx data), none⟩
  | .element tag attributes => do
    let es ← tagToString parser ctx tag attributes children fence
    pure ⟨es, some tag⟩
  | .document => do
    let strs ← children ctx
    pure ⟨tagAwareString strs, none⟩
  | .other => pure ⟨some {}, none⟩

def nodeToTaggedStrings (parser : HTMLParser) : Node → Context → Except Panic (List TaggedString)
  | .nil, _ => pure []
  | .node type firstChild nextSibling, ctx => do
    let str ← singleNodeToString parser ctx type (nodeToTaggedStrings parser firstChild)
      (match firstChild with
        | .node (.element .code codeAttributes) codeChild _ =>
          some (codeAttributes, nodeToTaggedStrings parser codeChild)
        | _ => none)
    let strs ← nodeToTaggedStrings parser nextSibling ctx
    pure (str :: strs)

-- HTMLParser.Parse of a parsed document. The result may be nil.
def parse (node : Node) (ctx : Context) : Except Panic (Option EntityString) := do
  let strs ← nodeToTaggedStrings parser node ctx
  pure (tagAwareString strs)

end MautrixSignal.MatrixFormat
