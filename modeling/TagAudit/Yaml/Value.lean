import TagAudit.Text.Digits
import TagAudit.Yaml.Node

/-! What the nodes of a document mean.  Plain scalars are read as null, booleans,
numbers or text by the core schema; quoted scalars are text. -/

namespace TagAudit.Yaml

inductive Value where
  | null
  | bool (b : Bool)
  | integer (n : Int)
  | float
  | text (s : String)
  | sequence (items : List Value)
  | mapping (entries : List (Value × Value))
deriving Repr

inductive ShapeError where
  | unexpectedType
  | unknownTag
  | integerTooLarge
  | repeatedField
  | tooDeep
  /-- The aliases stand for too much. -/
  | tooManyAliases
deriving DecidableEq, Repr

namespace Scalar

def isNull (text : String) : Bool :=
  text == "null" || text == "Null" || text == "NULL" || text == "~"

def bool? (text : String) : Option Bool :=
  if text == "true" || text == "True" || text == "TRUE" then some true
  else if text == "false" || text == "False" || text == "FALSE" then some false
  else none

def hasLeadingZero (digits : List Char) : Bool :=
  match digits with
  | '0' :: rest => !rest.isEmpty && rest.all Text.isAsciiDigit
  | _ => false

/-- The magnitude of an integer without sign: hexadecimal after `0x`, octal after `0o`,
binary after `0b`, decimal otherwise. -/
def magnitude? (cs : List Char) : Option Nat :=
  match cs with
  | '0' :: 'x' :: rest => Text.digits? 16 rest
  | '0' :: 'o' :: rest => Text.digits? 8 rest
  | '0' :: 'b' :: rest => Text.digits? 2 rest
  | _ => if hasLeadingZero cs then none else Text.digits? 10 cs

/-- The integer that a scalar writes. -/
def integer? (cs : List Char) : Option Int :=
  match cs with
  | '+' :: rest => ((magnitude? rest).filter (· < Text.bitLimit 128)).map Int.ofNat
  | '-' :: rest => ((magnitude? rest).filter (· ≤ Text.bitLimit 127)).map fun n => -(n : Int)
  | _ => ((magnitude? cs).filter (· < Text.bitLimit 128)).map Int.ofNat

def natural? (cs : List Char) : Option Nat :=
  let digits := match cs with
    | '+' :: rest => rest
    | _ => cs
  (magnitude? digits).filter (· < Text.bitLimit 64)

/-- Whether a scalar writes a finite float: digits with at most one point, and perhaps
an exponent. -/
def isDecimalFloat (cs : List Char) : Bool :=
  (Text.scientific? cs).any fun (digits, exponent) => Text.isFiniteFloat digits exponent

def isFloat (text : String) : Bool :=
  if [".inf", ".Inf", ".INF", "+.inf", "+.Inf", "+.INF", "-.inf", "-.Inf", "-.INF",
      ".nan", ".NaN", ".NAN"].contains text then true
  else
    match text.toList with
    | '+' :: rest => isDecimalFloat rest
    | '-' :: rest => isDecimalFloat rest
    | cs => isDecimalFloat cs

def isZeroPadded (cs : List Char) : Bool :=
  match cs with
  | '+' :: rest => hasLeadingZero rest
  | '-' :: rest => hasLeadingZero rest
  | _ => hasLeadingZero cs

/-- The value of an integer; those that do not fit into 64 bits are refused. -/
def integerValue (n : Int) : Except ShapeError Value :=
  if Int.negOfNat (Text.bitLimit 63) ≤ n && n < Int.ofNat (Text.bitLimit 64) then
    .ok (.integer n)
  else .error .integerTooLarge

def plainValue (text : String) : Except ShapeError Value :=
  if text.isEmpty || isNull text then .ok .null
  else
    match bool? text, integer? text.toList with
    | some b, _ => .ok (.bool b)
    | none, some n => integerValue n
    | none, none =>
        if !isZeroPadded text.toList && isFloat text then .ok .float else .ok (.text text)

def coreTag (name : String) : String := "tag:yaml.org,2002:" ++ name

def isLocalTag (tag : String) : Bool :=
  tag.toList.head? == some '!'

def value (tag : Option String) (style : ScalarStyle) (text : String) :
    Except ShapeError Value :=
  match tag with
  | none => if style = .plain then plainValue text else .ok (.text text)
  | some tag =>
      if isLocalTag tag then .error .unknownTag
      else if tag == coreTag "bool" then
        match bool? text with
        | some b => .ok (.bool b)
        | none => .error .unexpectedType
      else if tag == coreTag "int" then
        match integer? text.toList with
        | some n => integerValue n
        | none => .error .unexpectedType
      else if tag == coreTag "float" then
        if isFloat text then .ok .float else .error .unexpectedType
      else if tag == coreTag "null" then
        if isNull text then .ok .null else .error .unexpectedType
      else .ok (.text text)

end Scalar

namespace Document

def resolve (doc : Document) (node : Node) : Node :=
  match node with
  | .alias id => (doc.anchored.lookup id).getD .empty
  | _ => node

/-! Aliases may make a small document stand for a large one. -/

mutual

/-- Number of starts and ends of nodes, as they are written. -/
def eventCount : Node → Nat
  | .scalar .. | .alias _ => 1
  | .sequence _ items => 2 + eventCountOfItems items
  | .mapping _ entries => 2 + eventCountOfEntries entries

def eventCountOfItems : List Node → Nat
  | [] => 0
  | item :: rest => eventCount item + eventCountOfItems rest

def eventCountOfEntries : List (Node × Node) → Nat
  | [] => 0
  | (key, item) :: rest => eventCount key + eventCount item + eventCountOfEntries rest

end

mutual

/-- Number of aliases that are followed to read the node.  `known` has the numbers
for the nodes behind them. -/
def followCount (known : List (Nat × Nat)) : Node → Nat
  | .scalar .. => 0
  | .alias id => 1 + (known.lookup id).getD 0
  | .sequence _ items => followCountOfItems known items
  | .mapping _ entries => followCountOfEntries known entries

def followCountOfItems (known : List (Nat × Nat)) : List Node → Nat
  | [] => 0
  | item :: rest => followCount known item + followCountOfItems known rest

def followCountOfEntries (known : List (Nat × Nat)) : List (Node × Node) → Nat
  | [] => 0
  | (key, item) :: rest =>
      followCount known key + followCount known item + followCountOfEntries known rest

end

def followCounts (doc : Document) : List (Nat × Nat) :=
  doc.anchored.foldr (fun (id, node) known => (id, followCount known node) :: known) []

/-- How many aliases may be followed for each event of a document. -/
def followLimit : Nat := 100

def checkAliases (doc : Document) (nodes : List Node) : Except ShapeError Unit :=
  let events := (doc.node.map eventCount).getD 0
  if followLimit * events < followCountOfItems doc.followCounts nodes then
    .error .tooManyAliases
  else .ok ()

def value (doc : Document) : Nat → Node → Except ShapeError Value
  | depth, node =>
      match doc.resolve node with
      | .scalar tag style text => Scalar.value tag style text
      | .sequence tag items =>
          match depth with
          | 0 => .error .tooDeep
          | depth + 1 =>
              if tag.any Scalar.isLocalTag then .error .unknownTag
              else (items.mapM (doc.value depth)).map .sequence
      | .mapping tag entries =>
          match depth with
          | 0 => .error .tooDeep
          | depth + 1 =>
              if tag.any Scalar.isLocalTag then .error .unknownTag
              else
                (entries.mapM fun (key, item) => do
                  return (← doc.value depth key, ← doc.value depth item)).map .mapping
      | .alias _ => .error .unexpectedType

def isNull (doc : Document) (node : Node) : Except ShapeError Bool :=
  match doc.resolve node with
  | .scalar none .plain text => .ok (text.isEmpty || Scalar.isNull text)
  | .scalar (some tag) .plain text =>
      if tag == Scalar.coreTag "null" then
        if Scalar.isNull text then .ok true else .error .unexpectedType
      else .ok false
  | _ => .ok false

/-- Whether a node is left out altogether. -/
def isAbsent (doc : Document) (node : Node) : Bool :=
  match doc.resolve node with
  | .scalar _ .plain "" => true
  | _ => false

/-- The text of a scalar that may be of the core type `type`: a plain one, whatever its
tag, or a literal block with just the tag of the type. -/
def typedText? (doc : Document) (type : String) (node : Node) : Option (List Char) :=
  match doc.resolve node with
  | .scalar tag style text =>
      if style = .plain || (style = .literal && tag == some (Scalar.coreTag type)) then
        some text.toList
      else none
  | _ => none

def boolOf (doc : Document) (node : Node) : Except ShapeError Bool :=
  match (doc.typedText? "bool" node).bind fun text => Scalar.bool? (String.ofList text) with
  | some b => .ok b
  | none => .error .unexpectedType

def naturalOf (doc : Document) (node : Node) : Except ShapeError Nat :=
  match (doc.typedText? "int" node).bind Scalar.natural? with
  | some n => .ok n
  | none => .error .unexpectedType

def scalarText (doc : Document) (node : Node) : Except ShapeError String :=
  match doc.resolve node with
  | .scalar _ _ text => .ok text
  | _ => .error .unexpectedType

def entries (doc : Document) (node : Node) : Except ShapeError (List (String × Node)) :=
  match doc.resolve node with
  | .mapping _ entries => entries.mapM fun (key, item) => do return (← doc.scalarText key, item)
  | _ => if doc.isAbsent node then .ok [] else .error .unexpectedType

def items (doc : Document) (node : Node) : Except ShapeError (List Node) :=
  match doc.resolve node with
  | .sequence _ items => .ok items
  | _ => if doc.isAbsent node then .ok [] else .error .unexpectedType

def field (name : String) (entries : List (String × α)) : Except ShapeError (Option α) :=
  match entries.filter (·.1 == name) with
  | [] => .ok none
  | [entry] => .ok (some entry.2)
  | _ => .error .repeatedField

end Document

end TagAudit.Yaml
