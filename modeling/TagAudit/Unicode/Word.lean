import TagAudit.Text.Basic
import TagAudit.Unicode.Derived

/-! The characters that words are made of: letters, marks, decimal digits,
connectors and joiners. -/

namespace TagAudit.Unicode

open Text

def wordCharacters : CharSet :=
  .unionAll [Derived.alphabetic, inCategories ["m", "nd", "pc"], withProperties ["joincontrol"]]

def isAsciiWord (c : Char) : Bool :=
  isAsciiLetter c || isAsciiDigit c || c == '_'

def isWord (c : Char) : Bool :=
  if c.toNat < 0x80 then isAsciiWord c else wordCharacters.contains c

end TagAudit.Unicode
