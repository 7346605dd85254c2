import TagAudit.Marker.Closings
import TagAudit.Marker.Occurrence

/-! Finding the occurrences of a text.  An opening marker is closed by the
first closing marker of the same name that follows it.  Without one, the text
up to the next marker decides whether the tag is bare or unclosed. -/

namespace TagAudit

open Text

/-- What decides how an opening marker is understood. -/
structure ScanOptions where
  /-- Categories whose `category:value` tags are dimension tags. -/
  dimensions : List String
  /-- The longest text, in characters, that an unclosed tag may trail. -/
  threshold : Nat
deriving DecidableEq, Repr

def defaultThreshold : Nat := 50

def ScanOptions.default : ScanOptions :=
  ⟨["component", "type", "feature"], defaultThreshold⟩

def commentMarkers : List (List Char) :=
  [['#'], ['/', '/'], ['-', '-'], [';']]

def isCommentLead (before : List Char) : Bool :=
  let marker := trim before
  marker.isEmpty || commentMarkers.contains marker

/-- A line without its indentation and one leading comment marker, which must
be followed by a blank or the end of the line. -/
def stripCommentMarker (line : List Char) : List Char :=
  let line := trimStart line
  let uncommented := commentMarkers.findSome? fun marker => do
    let rest ← dropLead? marker line
    match rest with
    | [] => some []
    | c :: _ => if isBlank c then some (trimStart rest) else none
  uncommented.getD line

/-- What a region says once indentation and comment markers are gone. -/
def regionBody (region : List Char) : List Char :=
  trim (joinLines ((lines region).map fun line => trimEnd (stripCommentMarker line)))

/-- The text between two markers that belongs to the first.  When only indentation and
a comment marker stand before the second on its line, that line is left out. -/
def regionOf (text : List Char) : List Char :=
  let lead := lastLine text
  if lead.length < text.length && isCommentLead lead then text.take (text.length - lead.length)
  else text

namespace ScanOptions

def isDimension (options : ScanOptions) (name : String) : Bool :=
  match splitDimension name with
  | some (category, _) => options.dimensions.contains category
  | none => false

/-- The occurrence that the opening token `token` makes, where `close?` is the token that
closes it and `next?` the one after it. -/
def describe (options : ScanOptions) (file : String) (token : Token) (close? next? : Option Token) :
    Occurrence :=
  let found : Occurrence :=
    { tag := token.name, file := file, startLine := token.line, endLine := token.line,
      content := "", kind := .primary, closure := .bare, openOffset := token.start,
      insertOffset := none }
  if options.isDimension token.name then
    { found with kind := .dimension, closure := .marker }
  else
    match close? with
    | some close =>
        { found with
          content := String.ofList (trim (takeBytes (close.start - token.stop) token.after)),
          endLine := close.line,
          closure := .closed }
    | none =>
        let text := match next? with
          | some next => takeBytes (next.start - token.stop) token.after
          | none => token.after
        let region := regionOf text
        let body := regionBody region
        if body.length > options.threshold then
          let kept := trimEnd region
          { found with
            content := String.ofList body, closure := .unclosed,
            endLine := token.line + kept.count '\n',
            insertOffset := some (token.stop + byteSize kept) }
        else
          { found with content := String.ofList body }

/-- The occurrences of the tokens from `place` on, in order; a closing token makes none. -/
def describeFrom (options : ScanOptions) (file : String) (tokens : Array Token)
    (closings : Closings) (place : Nat) : List Token → List Occurrence
  | [] => []
  | token :: later =>
      if token.marker.closing then
        options.describeFrom file tokens closings (place + 1) later
      else
        let close? := (closings.next? token.name place).bind fun place => tokens[place]?
        options.describe file token close? later.head? ::
          options.describeFrom file tokens closings (place + 1) later

def scan (options : ScanOptions) (file content : String) : List Occurrence :=
  let tokens := tokenize content.toList
  options.describeFrom file tokens.toArray (.ofTokens tokens) 0 tokens

end ScanOptions

end TagAudit
