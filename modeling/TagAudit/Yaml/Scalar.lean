import TagAudit.Yaml.Cursor
import TagAudit.Text.Ranges

/-! The texts of YAML scalars: plain, quoted and block scalars, with the line
folding of each. -/

namespace TagAudit.Yaml

structure Gap where
  /-- Blanks before the first break. -/
  blanks : List Char
  /-- Whether a break has been seen. -/
  broken : Bool
  /-- The first break, unless it was escaped. -/
  first : List Char
  /-- The breaks after the first. -/
  more : List Char

namespace Gap

def none : Gap := ⟨[], false, [], []⟩

def escaped : Gap := ⟨[], true, [], []⟩

def isEmpty (gap : Gap) : Bool :=
  !gap.broken && gap.blanks.isEmpty

/-- What the gap leaves in the scalar: one break folds into a space, and of several
all but the first stay. -/
def fold (gap : Gap) : List Char :=
  if !gap.broken then gap.blanks
  else if gap.first == ['\n'] then (if gap.more.isEmpty then [' '] else gap.more)
  else gap.first ++ gap.more

/-- Reads the gap at the cursor.  Before column `indent` a tab after a break is
refused. -/
def read (indent : Nat) : Nat → Gap → Cursor → Except YamlError (Gap × Cursor)
  | 0, gap, at_ => .ok (gap, at_)
  | fuel + 1, gap, at_ =>
      match at_.peek with
      | Option.none => .ok (gap, at_)
      | some c =>
          if isSpace c then
            if gap.broken && at_.column < indent && c == '\t' then .error .tabIndentation
            else
              let gap := if gap.broken then gap else { gap with blanks := gap.blanks ++ [c] }
              read indent fuel gap at_.skip
          else if isBreak c then
            let (ending, next) := at_.takeBreak
            let gap := if gap.broken then { gap with more := gap.more ++ ending.toList }
              else ⟨[], true, ending.toList, []⟩
            read indent fuel gap next
          else .ok (gap, at_)

end Gap

namespace Scalar

def plainEnds (inFlow : Bool) (at_ : Cursor) : Bool :=
  (at_.sees ':' && at_.separatedAt 1) ||
    (inFlow && at_.seesWhere fun c =>
      c == ',' || c == '[' || c == ']' || c == '\x7b' || c == '\x7d')

def badFlowColon (at_ : Cursor) : Bool :=
  match at_.rest with
  | ':' :: c :: _ =>
      c == ',' || c == '?' || c == '[' || c == ']' || c == '\x7b' || c == '\x7d'
  | _ => false

def plainWord (inFlow : Bool) : Nat → List Char → Cursor → Except YamlError (List Char × Cursor)
  | 0, word, at_ => .ok (word.reverse, at_)
  | fuel + 1, word, at_ =>
      match at_.peek with
      | none => .ok (word.reverse, at_)
      | some c =>
          if isSpaceOrBreak c then .ok (word.reverse, at_)
          else if inFlow && badFlowColon at_ then .error .unexpectedColon
          else if plainEnds inFlow at_ then .ok (word.reverse, at_)
          else plainWord inFlow fuel (c :: word) at_.skip

/-- Reads the words of a plain scalar whose further lines are indented to column
`indent`.  Returns the parts of its text, last first, and whether it ended after a line
break.  No word is longer than `fuel`. -/
def plainFrom (inFlow : Bool) (indent : Nat) :
    Nat → List (List Char) → Gap → Cursor → Except YamlError (List (List Char) × Bool × Cursor)
  | 0, parts, gap, at_ => .ok (parts, gap.broken, at_)
  | fuel + 1, parts, gap, at_ => do
      if at_.atDocumentMark || at_.sees '#' then return (parts, gap.broken, at_)
      let (word, next) ← plainWord inFlow fuel [] at_
      let (parts, gap) := if word.isEmpty then (parts, gap) else (word :: gap.fold :: parts, .none)
      if !next.seesWhere isSpaceOrBreak then return (parts, gap.broken, next)
      let (gap, next) ← Gap.read indent fuel gap next
      if !inFlow && next.column < indent then return (parts, gap.broken, next)
      plainFrom inFlow indent fuel parts gap next

def plain (size : Nat) (inFlow : Bool) (indent : Nat) (at_ : Cursor) :
    Except YamlError (List Char × Bool × Cursor) := do
  let (parts, broken, next) ← plainFrom inFlow indent (size + 1) [] .none at_
  return (parts.reverse.flatten, broken, next)

def escape? : Char → Option Char
  | '0' => some '\x00'
  | 'a' => some '\x07'
  | 'b' => some '\x08'
  | 't' => some '\t'
  | '\t' => some '\t'
  | 'n' => some '\n'
  | 'v' => some '\x0b'
  | 'f' => some '\x0c'
  | 'r' => some '\r'
  | 'e' => some '\x1b'
  | ' ' => some ' '
  | '"' => some '"'
  | '/' => some '/'
  | '\\' => some '\\'
  | 'N' => some '\u0085'
  | '_' => some '\u00a0'
  | 'L' => some '\u2028'
  | 'P' => some '\u2029'
  | _ => none

def escapeDigits? : Char → Option Nat
  | 'x' => some 2
  | 'u' => some 4
  | 'U' => some 8
  | _ => none

def isHexDigit (c : Char) : Bool :=
  Text.isAsciiDigit c || ('a' ≤ c && c ≤ 'f') || ('A' ≤ c && c ≤ 'F')

def hexNumber (digits : List Char) : Nat :=
  Text.hexNumber (digits.map fun c => if 'a' ≤ c then Char.ofNat (c.toNat - 32) else c)

def readEscape (at_ : Cursor) : Except YamlError (Char × Cursor) :=
  match at_.rest with
  | _ :: code :: rest =>
      let after := at_.skip.skip
      match escape? code, escapeDigits? code with
      | some c, _ => .ok (c, after)
      | none, some count =>
          let digits := rest.take count
          if digits.length = count && digits.all isHexDigit then
            let n := hexNumber digits
            if (0xD800 ≤ n && n ≤ 0xDFFF) || 0x10FFFF < n then .error .badEscape
            else .ok (Char.ofNat n, after.skipMany count)
          else .error .badEscape
      | none, none => .error .badEscape
  | _ => .error .badEscape

/-- Reads the characters of a quoted scalar up to a blank, its closing quote or the
end of the text.  Returns also whether an escaped line break came last. -/
def quotedWord (single : Bool) :
    Nat → List Char → Cursor → Except YamlError (List Char × Bool × Cursor)
  | 0, word, at_ => .ok (word.reverse, false, at_)
  | fuel + 1, word, at_ =>
      match at_.rest with
      | [] => .ok (word.reverse, false, at_)
      | c :: rest =>
          if isSpaceOrBreak c then .ok (word.reverse, false, at_)
          else if single && c == '\'' then
            if rest.head? == some '\'' then quotedWord single fuel ('\'' :: word) at_.skip.skip
            else .ok (word.reverse, false, at_)
          else if !single && c == '"' then .ok (word.reverse, false, at_)
          else if !single && c == '\\' then
            if rest.head?.any isBreak then .ok (word.reverse, true, at_.skip.skipBreak)
            else
              match readEscape at_ with
              | .ok (d, next) => quotedWord single fuel (d :: word) next
              | .error e => .error e
          else quotedWord single fuel (c :: word) at_.skip

/-- Reads the words of a quoted scalar after its opening quote.  Returns the parts of its
text, last first.  No word is longer than `fuel`. -/
def quotedFrom (single : Bool) :
    Nat → List (List Char) → Cursor → Except YamlError (List (List Char) × Cursor)
  | 0, _, _ => .error .unclosedQuote
  | fuel + 1, parts, at_ => do
      if at_.atDocumentMark || at_.rest.isEmpty then .error .unclosedQuote
      let (word, escapedBreak, next) ← quotedWord single fuel [] at_
      if next.sees (if single then '\'' else '"') then return (word :: parts, next.skip)
      let (gap, next) ← Gap.read 0 fuel (if escapedBreak then .escaped else .none) next
      quotedFrom single fuel (gap.fold :: word :: parts) next

def quoted (size : Nat) (single : Bool) (at_ : Cursor) :
    Except YamlError (List Char × Cursor) := do
  let (parts, next) ← quotedFrom single (size + 1) [] at_.skip
  return (parts.reverse.flatten, next)

inductive Chomping where
  | strip
  | clip
  | keep

def readBlockHeader (at_ : Cursor) : Except YamlError (Chomping × Option Nat × Cursor) := do
  let chomping? (c : Char) : Option Chomping :=
    if c == '+' then some .keep else if c == '-' then some .strip else none
  let increment (at_ : Cursor) : Except YamlError (Option Nat × Cursor) :=
    match at_.peek with
    | some c =>
        if c == '0' then .error .badBlockHeader
        else if Text.isAsciiDigit c then .ok (some (c.toNat - '0'.toNat), at_.skip)
        else .ok (none, at_)
    | none => .ok (none, at_)
  match at_.peek.bind chomping? with
  | some chomping =>
      let (indent, at_) ← increment at_.skip
      return (chomping, indent, at_)
  | none =>
      let (indent, next) ← increment at_
      if indent.isNone then return (.clip, none, next)
      match next.peek.bind chomping? with
      | some chomping => return (chomping, indent, next.skip)
      | none => return (.clip, indent, next)

/-- Reads indentation and blank lines before a line of a block scalar.  Without a
known indentation, `0`, the deepest column reached is found. -/
def blockBreaks (indent : Nat) :
    Nat → Nat → List Char → Cursor → Except YamlError (Nat × List Char × Cursor)
  | 0, deepest, breaks, at_ => .ok (deepest, breaks, at_)
  | fuel + 1, deepest, breaks, at_ =>
      let spaces := at_.rest.takeWhile (· == ' ')
      let count := if indent = 0 then spaces.length
        else min spaces.length (indent - at_.column)
      let next := at_.skipMany count
      let deepest := max deepest next.column
      if (indent = 0 || next.column < indent) && next.sees '\t' then .error .tabIndentation
      else if next.seesWhere isBreak then
        let (ending, after) := next.takeBreak
        blockBreaks indent fuel deepest (breaks ++ ending.toList) after
      else .ok (deepest, breaks, next)

structure BlockText where
  /-- The parts of the text, last first. -/
  parts : List (List Char)
  /-- The break that ended the last line. -/
  ending : List Char
  /-- The breaks of the blank lines after it. -/
  blankLines : List Char
  /-- Whether the last line began with a blank. -/
  indented : Bool

/-- Reads the lines of a block scalar that are indented to column `indent`.  No more than
`fuel` lines are left. -/
def blockLines (literal : Bool) (indent : Nat) :
    Nat → BlockText → Cursor → Except YamlError (BlockText × Cursor)
  | 0, block, at_ => .ok (block, at_)
  | fuel + 1, block, at_ => do
      if at_.column ≠ indent || at_.rest.isEmpty then return (block, at_)
      let indented := at_.seesWhere isSpace
      let folds := !literal && block.ending == ['\n'] && !block.indented && !indented
      let ending := if folds then (if block.blankLines.isEmpty then [' '] else []) else block.ending
      let (line, next) := at_.takeWhile (!isBreak ·)
      let parts := line :: block.blankLines :: ending :: block.parts
      let (ending, next) := next.takeBreak
      let (_, blankLines, next) ← blockBreaks indent fuel 0 [] next
      blockLines literal indent fuel ⟨parts, ending.toList, blankLines, indented⟩ next

/-- Reads a block scalar in a block whose indentation is `parent`, which is `-1`
outside of all blocks.  At most `size` characters are left. -/
def block (size : Nat) (literal : Bool) (parent : Int) (at_ : Cursor) :
    Except YamlError (List Char × Cursor) := do
  let (chomping, increment, next) ← readBlockHeader at_.skip
  let next := next.skipLineRest
  if !next.rest.isEmpty && !next.seesWhere isBreak then .error .badBlockHeader
  let next := next.skipBreak
  let known := match increment with
    | some n => if parent ≥ 0 then (parent + n).toNat else n
    | none => 0
  let (deepest, blankLines, next) ← blockBreaks known (size + 1) 0 [] next
  let indent := if known = 0 then max deepest (max (parent + 1).toNat 1) else known
  let (block, next) ← blockLines literal indent (size + 1) ⟨[], [], blankLines, false⟩ next
  let tail := match chomping with
    | .strip => []
    | .clip => block.ending
    | .keep => block.ending ++ block.blankLines
  return ((tail :: block.parts).reverse.flatten, next)

end Scalar

end TagAudit.Yaml
