import TagAudit.Text.Basic

/-! A place in a YAML text, and the classes of characters that its syntax
tells apart. -/

namespace TagAudit.Yaml

inductive YamlError where
  | controlCharacter
  | unexpectedCharacter
  | misplacedEntry
  | misplacedKey
  | misplacedValue
  | missingColon
  | badDirective
  | badAnchor
  | badTag
  | undefinedTagHandle
  | badBlockHeader
  | tabIndentation
  | unexpectedColon
  | unclosedQuote
  | badEscape
  | unexpectedToken
  | unknownAnchor
  | severalDocuments
deriving DecidableEq, Repr

/-- The text still to be read, with the number of bytes before it, its line and its
column. -/
structure Cursor where
  rest : List Char
  index : Nat
  line : Nat
  column : Nat
deriving Repr

def isBreak (c : Char) : Bool :=
  c == '\r' || c == '\n' || c == '\u0085' || c == '\u2028' || c == '\u2029'

def isSpace (c : Char) : Bool :=
  c == ' ' || c == '\t'

def isSpaceOrBreak (c : Char) : Bool :=
  isSpace c || isBreak c

def isNameChar (c : Char) : Bool :=
  Text.isAsciiLetter c || Text.isAsciiDigit c || c == '_' || c == '-'

def isPrintable (c : Char) : Bool :=
  let n := c.toNat
  n == 9 || n == 10 || n == 13 || (0x20 ≤ n && n ≤ 0x7E) || n == 0x85 ||
    (0xA0 ≤ n && n ≤ 0xD7FF) || (0xE000 ≤ n && n ≤ 0xFFFD) || 0x10000 ≤ n

namespace Cursor

def peek (at_ : Cursor) : Option Char := at_.rest.head?

def sees (at_ : Cursor) (c : Char) : Bool :=
  at_.rest.head? == some c

def seesWhere (at_ : Cursor) (p : Char → Bool) : Bool :=
  at_.rest.head?.any p

/-- Whether the text is over after `n` characters, or a blank or a break follows them. -/
def separatedAt (at_ : Cursor) (n : Nat) : Bool :=
  match at_.rest.drop n with
  | [] => true
  | c :: _ => isSpaceOrBreak c

def skipMany (count : Nat) (at_ : Cursor) : Cursor :=
  { at_ with
    rest := at_.rest.drop count, index := at_.index + Text.byteSize (at_.rest.take count),
    column := at_.column + count }

def skip (at_ : Cursor) : Cursor :=
  at_.skipMany 1

/-- Moves over a line break, and returns it in its normal form. -/
def takeBreak (at_ : Cursor) : Option Char × Cursor :=
  let next (rest : List Char) (size : Nat) : Cursor :=
    ⟨rest, at_.index + size, at_.line + 1, 0⟩
  match at_.rest with
  | '\r' :: '\n' :: rest => (some '\n', next rest 2)
  | c :: rest =>
      if c == '\u2028' || c == '\u2029' then (some c, next rest c.utf8Size)
      else if isBreak c then (some '\n', next rest c.utf8Size)
      else (none, at_)
  | [] => (none, at_)

def skipBreak (at_ : Cursor) : Cursor :=
  at_.takeBreak.2

/-- Moves over the characters that satisfy `p`, none of which is a break, and
returns them. -/
def takeWhile (p : Char → Bool) (at_ : Cursor) : List Char × Cursor :=
  let taken := at_.rest.takeWhile p
  (taken, at_.skipMany taken.length)

def skipWhile (p : Char → Bool) (at_ : Cursor) : Cursor :=
  (at_.takeWhile p).2

/-- Moves over blanks and a comment, up to the end of the line. -/
def skipLineRest (at_ : Cursor) : Cursor :=
  let next := at_.skipWhile isSpace
  if next.sees '#' then next.skipWhile (!isBreak ·) else next

def atDocumentMark (at_ : Cursor) : Bool :=
  at_.column == 0 && at_.separatedAt 3 &&
    (at_.rest.take 3 == ['-', '-', '-'] || at_.rest.take 3 == ['.', '.', '.'])

end Cursor

end TagAudit.Yaml
