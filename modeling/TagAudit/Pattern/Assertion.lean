import TagAudit.Unicode.Word

/-! What a pattern asks of a place between two characters. -/

namespace TagAudit.Pattern

open Unicode

inductive Assertion where
  | textStart
  | textEnd
  | lineStart
  | lineEnd
  /-- Line bounds where a carriage return ends a line too. -/
  | lineStartCr
  | lineEndCr
  | wordBoundary (ascii : Bool)
  | notWordBoundary (ascii : Bool)
  | wordStart (ascii : Bool)
  | wordEnd (ascii : Bool)
  | notAfterWord (ascii : Bool)
  | notBeforeWord (ascii : Bool)
deriving DecidableEq, Repr

namespace Assertion

/-- Whether the assertion depends on which characters of Unicode are in words. -/
def isUnicodeWord : Assertion → Bool
  | wordBoundary ascii | notWordBoundary ascii | wordStart ascii | wordEnd ascii
  | notAfterWord ascii | notBeforeWord ascii => !ascii
  | _ => false

def isWordChar (ascii : Bool) (c : Char) : Bool :=
  if ascii then isAsciiWord c else isWord c

def holds (before after : Option Char) (what : Assertion) : Bool :=
  let wordBefore (ascii : Bool) := before.any (isWordChar ascii)
  let wordAfter (ascii : Bool) := after.any (isWordChar ascii)
  match what with
  | textStart => before.isNone
  | textEnd => after.isNone
  | lineStart => before.isNone || before == some '\n'
  | lineEnd => after.isNone || after == some '\n'
  | lineStartCr =>
      before.isNone || before == some '\n' || (before == some '\r' && after != some '\n')
  | lineEndCr =>
      after.isNone || after == some '\r' || (after == some '\n' && before != some '\r')
  | wordBoundary ascii => wordBefore ascii != wordAfter ascii
  | notWordBoundary ascii => wordBefore ascii == wordAfter ascii
  | wordStart ascii => !wordBefore ascii && wordAfter ascii
  | wordEnd ascii => wordBefore ascii && !wordAfter ascii
  | notAfterWord ascii => !wordBefore ascii
  | notBeforeWord ascii => !wordAfter ascii

end Assertion

end TagAudit.Pattern
