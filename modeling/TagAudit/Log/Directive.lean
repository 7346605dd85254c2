import TagAudit.Pattern.Reading
import TagAudit.Unicode.Latest

/-! Directives of a log filter.  One may name a target, a span and a field in brackets
after it, and a level after an equals sign: `target[span{field=value}]=level`. -/

namespace TagAudit.Log

open Text

/-- Shows events up to a rank: those of the areas whose name begins with `target`, and
of these only the ones with the field if there is one. -/
structure Directive where
  target : List Char
  field : Option String
  most : Nat
deriving DecidableEq, Repr

def traceRank : Nat := 5

def rank? (text : List Char) : Option Nat :=
  let digits := match text with
    | '+' :: rest => rest
    | _ => text
  match digits? 10 digits with
  | some n => if n ≤ traceRank then some n else none
  | none =>
      let names := ["off", "error", "warn", "info", "debug", "trace"]
      names.idxOf? (String.ofList (text.map asciiLower))

/-- The rank after the equals sign of a directive; every event is shown without one. -/
def rankAfterEquals? (text : List Char) : Option Nat :=
  if text.isEmpty then some traceRank else rank? text

structure FieldFilter where
  name : String
  value : Option (List Char)
deriving DecidableEq, Repr

namespace FieldFilter

/-- A number after a plus sign, which no pattern begins with. -/
def isPlusNumber : List Char → Bool
  | '+' :: number =>
      ["inf", "infinity", "nan"].contains (String.ofList (number.map asciiLower)) ||
        (scientific? number).isSome
  | _ => false

/-- Whether a text is a value: a number, or a pattern that asks for no Unicode words. -/
def isValue (text : List Char) : Bool :=
  isPlusNumber text ||
    match Pattern.parse (String.ofList text) with
    | .ok pattern => !pattern.asserts Pattern.Assertion.isUnicodeWord
    | .error _ => false

def read? (text : List Char) : Option FieldFilter :=
  match splitOn '=' text with
  | [name] => if name.isEmpty then none else some ⟨String.ofList name, none⟩
  | name :: value :: _ => if isValue value then some ⟨String.ofList name, some value⟩ else none
  | [] => none

end FieldFilter

namespace Directive

def mayBegin (c : Char) : Bool :=
  c == '-' || c == ':' || c == '_' || Unicode.isAlphabetic c || Unicode.isNumeric c

/-! A directive is read without the blanks around it, at positions that count from its
first character; what it names is cut out of the `whole` text with the blanks at these
positions. -/

/-- Reads what follows the target or the brackets of a directive at position `start`:
nothing, or a level. -/
def rankFrom? (whole : List Char) (start : Nat) : List Char → Option Nat
  | [] => some traceRank
  | '=' :: _ => rankAfterEquals? (dropBytes (start + 1) whole)
  | _ => none

/-- Reads what the brackets of a directive hold, from position `start` on.  A directive
for spans, or for a field's value, shows no events, as no event is in a span. -/
def readBrackets? (whole target : List Char) (start : Nat) (inside : List Char) :
    Option (List Directive) := do
  let span := inside.takeWhile fun c => c != ']' && c != '\x7b'
  let start := start + byteSize span + 1
  match inside.drop span.length with
  | ']' :: after => (rankFrom? whole start after).map fun _ => []
  | '\x7b' :: inside =>
      match splitAt? '\x7d' inside with
      | some (field, ']' :: after) =>
          let last := start + byteSize field
          let field ← FieldFilter.read? (slice start last whole)
          let most ← rankFrom? whole (last + 2) after
          return if span.isEmpty && field.value.isNone then [⟨target, field.name, most⟩] else []
      | _ => none
  | _ => none

def ofText (whole : List Char) : Directive :=
  match rank? whole with
  | some most => ⟨[], none, most⟩
  | none => ⟨whole, none, traceRank⟩

def read? (whole : List Char) : Option (List Directive) :=
  match trim whole with
  | [] => none
  | '[' :: inside => readBrackets? whole [] 1 inside
  | c :: rest =>
      if !mayBegin c then none
      else
        let name := c :: rest.takeWhile fun c => c != '=' && c != '['
        let target := takeBytes (byteSize name) whole
        match (c :: rest).drop name.length with
        | [] => some [ofText whole]
        | '[' :: inside => readBrackets? whole target (byteSize name + 1) inside
        | after => (rankFrom? whole (byteSize name) after).map fun most => [⟨target, none, most⟩]

def fits (directive : Directive) (target : List Char) (hasField : String → Bool) : Bool :=
  directive.target.isPrefixOf target && directive.field.all hasField

/-- Whether the first directive decides when both fit an event and the first comes later:
by the length of its target, then by its field, where names late in order come first. -/
def decides (first second : Directive) : Bool :=
  if first.target.length ≠ second.target.length then
    second.target.length < first.target.length
  else
    match first.field, second.field with
    | _, none => true
    | none, some _ => false
    | some name, some other => other ≤ name

end Directive

end TagAudit.Log
