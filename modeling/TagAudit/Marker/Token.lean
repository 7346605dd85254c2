import TagAudit.Text.Basic

/-! Markers in a text: `<!-- TAG:name -->` opens a tag and `<!-- /TAG:name -->`
closes it.  A marker stands on one line and ends at the first `-->` after its
name begins; blanks and tabs may surround the slash and the name. -/

namespace TagAudit

open Text

structure Marker where
  name : List Char
  closing : Bool
deriving DecidableEq, Repr

structure Token where
  marker : Marker
  /-- The byte positions where it begins and where it is over. -/
  start : Nat
  stop : Nat
  /-- Its line, counted from one. -/
  line : Nat
  /-- The text that follows it. -/
  after : List Char
deriving DecidableEq, Repr

namespace Marker

def isGap (c : Char) : Bool :=
  c == ' ' || c == '\t'

/-- The text up to the first `-->` on the line, and what follows that `-->`. -/
def untilArrow? : List Char → Option (List Char × List Char)
  | [] => none
  | '-' :: '-' :: '>' :: rest => some ([], rest)
  | c :: rest =>
      if c = '\n' then none
      else (untilArrow? rest).map fun (name, after) => (c :: name, after)

def opener : List Char := ['<', '!', '-', '-']

def keyword : List Char := ['T', 'A', 'G', ':']

def arrow : List Char := ['-', '-', '>']

/-- Reads the part of a marker before its name: whether it is a closing one, its text,
and what follows it. -/
def readLead? (cs : List Char) : Option (Bool × List Char × List Char) := do
  let inner ← dropLead? opener cs
  let gap := inner.takeWhile isGap
  match inner.drop gap.length with
  | '/' :: inner =>
      let more := inner.takeWhile isGap
      let rest ← dropLead? keyword (inner.drop more.length)
      return (true, opener ++ gap ++ '/' :: more ++ keyword, rest)
  | inner => return (false, opener ++ gap ++ keyword, ← dropLead? keyword inner)

/-- Reads a marker at the start of a text: the marker, the text that it is written in, and
what follows that text. -/
def read? (cs : List Char) : Option (Marker × List Char × List Char) := do
  let (closing, lead, inner) ← readLead? cs
  let (name, after) ← untilArrow? inner
  return (⟨trim name, closing⟩, lead ++ name ++ arrow, after)

def render (m : Marker) : List Char :=
  opener ++ (if m.closing then ['/'] else []) ++ keyword ++ m.name ++ arrow

end Marker

/-- The tokens of a text that begins at byte `pos` of line `line`, after `skip`
characters that belong to the token before it. -/
def Token.readFrom (skip pos line : Nat) : List Char → List Token
  | [] => []
  | c :: rest =>
      let next := pos + c.utf8Size
      let nextLine := if c = '\n' then line + 1 else line
      match skip with
      | skip + 1 => Token.readFrom skip next nextLine rest
      | 0 =>
          match Marker.read? (c :: rest) with
          | none => Token.readFrom 0 next nextLine rest
          | some (marker, text, after) =>
              ⟨marker, pos, pos + byteSize text, line, after⟩ ::
                Token.readFrom (text.length - 1) next nextLine rest

/-- The tokens of a text from left to right; no two overlap. -/
def tokenize (cs : List Char) : List Token :=
  Token.readFrom 0 0 1 cs

end TagAudit
