import TagAudit.Text.Basic
import TagAudit.Text.Ranges

/-! Ranges of characters as sequences of byte ranges in UTF-8. -/

namespace TagAudit.Pattern

open Text

def cutAfter (bound : Nat) (range : CodeRange) : List CodeRange :=
  if range.first ≤ bound && bound < range.last then
    [⟨range.first, bound⟩, ⟨bound + 1, range.last⟩]
  else [range]

def cutSurrogates (range : CodeRange) : List CodeRange :=
  if range.first ≤ 0xDFFF && 0xD800 ≤ range.last then
    [⟨range.first, 0xD7FF⟩, ⟨0xE000, range.last⟩].filter fun part => part.first ≤ part.last
  else [range]

/-- The parts of a range above ASCII that is not within one block of `size` code
points: what it has of its first block and of its last one when these are not whole,
and the whole blocks. -/
def cutBlocks (size : Nat) (range : CodeRange) : List CodeRange :=
  let blockOf (point : Nat) := point / size
  let cutLast (range : CodeRange) : List CodeRange :=
    if blockOf range.first = blockOf range.last || (range.last + 1) % size = 0 then [range]
    else
      let last := blockOf range.last * size
      [⟨range.first, last - 1⟩, ⟨last, range.last⟩]
  if range.last < 0x80 || blockOf range.first = blockOf range.last then [range]
  else if range.first % size = 0 then cutLast range
  else
    let second := (blockOf range.first + 1) * size
    ⟨range.first, second - 1⟩ :: cutLast ⟨second, range.last⟩

def encode (point : Nat) : List Nat :=
  let trail (shift : Nat) := 0x80 + point / shift % 64
  if point < 0x80 then [point]
  else if point < 0x800 then [0xC0 + point / 64, trail 1]
  else if point < 0x10000 then [0xE0 + point / 4096, trail 64, trail 1]
  else [0xF0 + point / 262144, trail 4096, trail 64, trail 1]

/-- Sequences of byte ranges that together hold just the characters of the range. -/
def byteSequences (range : CodeRange) : List (List CodeRange) :=
  let parts := (cutSurrogates range).flatMap (cutAfter 0x7F)
  let parts := (parts.flatMap (cutAfter 0x7FF)).flatMap (cutAfter 0xFFFF)
  let parts := (parts.flatMap (cutBlocks 64)).flatMap (cutBlocks 4096)
  (parts.flatMap (cutBlocks 262144)).map fun part =>
    (encode part.first).zipWith CodeRange.mk (encode part.last)

end TagAudit.Pattern
