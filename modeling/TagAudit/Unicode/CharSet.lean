import TagAudit.Text.Ranges

/-! Sets of characters, and tables of named sets. -/

namespace TagAudit.Unicode

open Text

/-- A set of characters as ranges of code points.  The ranges ascend, and between
any two lies a code point of neither. -/
structure CharSet where
  ranges : List CodeRange
deriving DecidableEq, Repr

namespace CharSet

/-- Ranges that ascend, with those that overlap or touch made into one. -/
def coalesce : List CodeRange → List CodeRange
  | [] => []
  | range :: rest => extend range rest
where
  extend (range : CodeRange) : List CodeRange → List CodeRange
    | [] => [range]
    | next :: rest =>
        if next.first ≤ range.last + 1 then
          extend ⟨range.first, max range.last next.last⟩ rest
        else range :: extend next rest

def startsBefore (left right : CodeRange) : Bool :=
  left.first ≤ right.first

def ofRanges (ranges : List CodeRange) : CharSet :=
  ⟨coalesce (ranges.mergeSort startsBefore)⟩

def ofTable (table : String) : CharSet :=
  ofRanges (decodeRanges table)

def empty : CharSet := ⟨[]⟩

def range (first last : Nat) : CharSet := ⟨[⟨first, last⟩]⟩

def single (c : Char) : CharSet := range c.toNat c.toNat

def lastPoint : Nat := 0x10FFFF

def all : CharSet := range 0 lastPoint

def isEmpty (set : CharSet) : Bool :=
  set.ranges.isEmpty

def isAscii (set : CharSet) : Bool :=
  set.ranges.all fun range => range.last < 0x80

def contains (set : CharSet) (c : Char) : Bool :=
  inRanges set.ranges c

def only? (set : CharSet) : Option Char :=
  match set.ranges with
  | [⟨first, last⟩] => if first = last then some (Char.ofNat first) else none
  | _ => none

def union (left right : CharSet) : CharSet :=
  ⟨coalesce (left.ranges.merge right.ranges startsBefore)⟩

def unionAll (sets : List CharSet) : CharSet :=
  ofRanges (sets.flatMap CharSet.ranges)

/-! Between the last character below the surrogates and the first one above them
lies no other character. -/

def lastBelowSurrogates : Nat := 0xD7FF

def firstAboveSurrogates : Nat := 0xE000

def pointAfter (point : Nat) : Nat :=
  if point = lastBelowSurrogates then firstAboveSurrogates else point + 1

def pointBefore (point : Nat) : Nat :=
  if point = firstAboveSurrogates then lastBelowSurrogates else point - 1

def spanning (one other : Nat) : CodeRange :=
  if one ≤ other then ⟨one, other⟩ else ⟨other, one⟩

/-- What lies after the range that ends at `last` and outside the ranges that
follow it.  Where one range ends below the surrogates and the next begins above
them, the two characters at these bounds stand for the gap. -/
def gapsAfter (last : Nat) : List CodeRange → List CodeRange
  | [] => if last < lastPoint then [⟨pointAfter last, lastPoint⟩] else []
  | next :: rest => spanning (pointAfter last) (pointBefore next.first) :: gapsAfter next.last rest

def complement (set : CharSet) : CharSet :=
  match set.ranges with
  | [] => all
  | range :: rest =>
      let before := if range.first = 0 then [] else [⟨0, pointBefore range.first⟩]
      ⟨before ++ gapsAfter range.last rest⟩

def overlaps (ranges : List CodeRange) (range : CodeRange) : List CodeRange :=
  ranges.filterMap fun other =>
    let first := max range.first other.first
    let last := min range.last other.last
    if first ≤ last then some ⟨first, last⟩ else none

def intersection (left right : CharSet) : CharSet :=
  ofRanges (left.ranges.flatMap (overlaps right.ranges))

def remainders (first last : Nat) : List CodeRange → List CodeRange
  | [] => if first ≤ last then [⟨first, last⟩] else []
  | other :: rest =>
      if last < first then []
      else if last < other.first then [⟨first, last⟩]
      else if other.last < first then remainders first last rest
      else
        let before := if first < other.first then [⟨first, pointBefore other.first⟩] else []
        before ++ remainders (pointAfter other.last) last rest

def difference (left right : CharSet) : CharSet :=
  ⟨left.ranges.flatMap fun range => remainders range.first range.last right.ranges⟩

def symmetricDifference (left right : CharSet) : CharSet :=
  (left.union right).difference (left.intersection right)

end CharSet

def lookUp? (name : String) (table : List (List String × α)) : Option α :=
  (table.find? fun entry => entry.1.contains name).map Prod.snd

end TagAudit.Unicode
