import TagAudit.Text.Basic

/-! Sets of characters written as ranges of code points. -/

namespace TagAudit.Text

structure CodeRange where
  first : Nat
  last : Nat
deriving DecidableEq, Repr

namespace CodeRange

def holds (range : CodeRange) (point : Nat) : Bool :=
  range.first ≤ point && point ≤ range.last

end CodeRange

def hexValue (c : Char) : Nat :=
  if c ≤ '9' then c.toNat - '0'.toNat else c.toNat - 'A'.toNat + 10

def hexNumber (cs : List Char) : Nat :=
  cs.foldl (fun n c => 16 * n + hexValue c) 0

/-- A table of ranges that is being read: the ranges before, last one first, where
the range at hand begins, and the number at hand. -/
structure RangeReading where
  done : List CodeRange
  first : Option Nat
  number : Option Nat

namespace RangeReading

def endRange (reading : RangeReading) : RangeReading :=
  match reading.number with
  | some last => ⟨⟨reading.first.getD last, last⟩ :: reading.done, none, none⟩
  | none => reading

def next (reading : RangeReading) (c : Char) : RangeReading :=
  if c = ' ' || c = '\n' then reading.endRange
  else if c = '-' then { reading with first := reading.number, number := none }
  else { reading with number := some (16 * reading.number.getD 0 + hexValue c) }

end RangeReading

/-- Reads ranges such as `30-39 41-5A 5F`. -/
def decodeRanges (table : String) : List CodeRange :=
  (table.foldl RangeReading.next ⟨[], none, none⟩).endRange.done.reverse

def inRanges (ranges : List CodeRange) (c : Char) : Bool :=
  ranges.any fun range => range.holds c.toNat

end TagAudit.Text
