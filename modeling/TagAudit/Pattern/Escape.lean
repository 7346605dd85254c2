import TagAudit.Pattern.Expr
import TagAudit.Text.Digits
import TagAudit.Unicode.CaseFold
import TagAudit.Unicode.Class

/-! Single elements of a pattern: characters, classes and assertions, and what
follows a backslash. -/

namespace TagAudit.Pattern

open Text Unicode

inductive PatternError where
  | unclosedGroup
  | unopenedGroup
  | lookAround
  | badGroupName
  | badFlags
  | nothingToRepeat
  | badCount
  | unclosedClass
  | badClassItem
  | badRange
  | badEscape
  | backReference
  | badCodePoint
  | unknownClass
  | badBoundary
  /-- A pattern of bytes that would match inside a character. -/
  | insideCharacter
  | tooDeep
  | tooLarge
deriving DecidableEq, Repr

structure Mode where
  ignoreCase : Bool
  multiLine : Bool
  dotMatchesLineFeed : Bool
  /-- Classes hold ASCII characters only. -/
  ascii : Bool
  /-- A carriage return ends a line too. -/
  carriageReturns : Bool
  /-- Blanks and comments in the pattern are skipped. -/
  verbose : Bool
deriving DecidableEq, Repr

abbrev Reader (α : Type) := Except PatternError α

def skipComments : List Char → Bool → List Char
  | [], _ => []
  | c :: rest, inComment =>
      if inComment then skipComments rest (c ≠ '\n')
      else if isBlank c then skipComments rest false
      else if c = '#' then skipComments rest true
      else c :: rest

namespace Mode

def initial : Mode := ⟨false, false, false, false, false, false⟩

def skip (mode : Mode) (cs : List Char) : List Char :=
  if mode.verbose then skipComments cs false else cs

/-- The characters that fulfil `accepts`, with blanks and comments after each of
them skipped, and what follows them.  `fuel` bounds their number. -/
def takeWhile (mode : Mode) (accepts : Char → Bool) : Nat → List Char → List Char × List Char
  | fuel + 1, c :: rest =>
      if accepts c then
        let (taken, rest) := mode.takeWhile accepts fuel (mode.skip rest)
        (c :: taken, rest)
      else ([], c :: rest)
  | _, cs => ([], cs)

def braced? (mode : Mode) (cs : List Char) : Option (List Char × List Char) :=
  match mode.takeWhile (· ≠ '\x7d') cs.length (mode.skip cs) with
  | (_, []) => none
  | (body, _ :: rest) => some (body, rest)

def closeCase (mode : Mode) (set : CharSet) : CharSet :=
  if !mode.ignoreCase then set else if mode.ascii then set.ignoreAsciiCase else set.ignoreCase

/-- The set or its complement.  In ASCII mode a complement would hold bytes of
longer characters. -/
def negateWhen (mode : Mode) (negated : Bool) (set : CharSet) : Reader CharSet :=
  if !negated then .ok set
  else if mode.ascii then .error .insideCharacter
  else .ok set.complement

end Mode

inductive Atom where
  | literal (c : Char)
  | assertion (what : Assertion)
  | charSet (set : CharSet)

namespace Atom

def isMeta (c : Char) : Bool :=
  "\\.+*?()|[]\x7b\x7d^$#&-~".toList.contains c

/-- Whether a backslash may stand before `c` to no effect. -/
def isEscapable (c : Char) : Bool :=
  isMeta c ||
    (c.toNat < 0x80 && !(isAsciiLetter c || isAsciiDigit c || c == '<' || c == '>'))

def isHex (c : Char) : Bool :=
  isAsciiDigit c || ('a' ≤ c && c ≤ 'f') || ('A' ≤ c && c ≤ 'F')

def ofHex (digits : List Char) : Reader Char :=
  match digits? 16 digits with
  | some n =>
      if n < 0xD800 || (0xDFFF < n && n < 0x110000) then .ok (Char.ofNat n)
      else .error .badCodePoint
  | none => .error .badEscape

/-- Reads `count` hexadecimal digits.  In ASCII mode two digits are a byte, which
must not be one of a longer character. -/
def readHex (mode : Mode) (count : Nat) (cs : List Char) : Reader (Char × List Char) := do
  let (digits, rest) := mode.takeWhile isHex count cs
  if digits.length < count then .error .badEscape
  let c ← ofHex digits
  if mode.ascii && count = 2 && 0x80 ≤ c.toNat then .error .insideCharacter
  return (c, rest)

def readBracedHex (mode : Mode) (cs : List Char) : Reader (Char × List Char) := do
  let some (digits, rest) := mode.braced? cs | .error .badEscape
  return (← ofHex digits, mode.skip rest)

def splitNotEqual? : List Char → Option (List Char × List Char)
  | [] => none
  | '!' :: '=' :: rest => some ([], rest)
  | c :: rest => (splitNotEqual? rest).map fun (before, after) => (c :: before, after)

/-- The class that the text between the braces of `\p` names, and whether it is
meant to be negated. -/
def unicodeClass? (name : List Char) : Option (Bool × CharSet) :=
  match splitNotEqual? name with
  | some (property, value) => (valuedClass? property value).map fun set => (true, set)
  | none =>
      let set? := match (splitAt? ':' name).or (splitAt? '=' name) with
        | some (property, value) => valuedClass? property value
        | none => namedClass? name
      set?.map fun set => (false, set)

def readUnicodeClass (mode : Mode) (negated : Bool) (cs : List Char) :
    Reader (CharSet × List Char) := do
  let (name, rest) ← match mode.skip cs with
    | '\x7b' :: rest =>
        match mode.braced? rest with
        | some read => .ok read
        | none => .error .badEscape
    | [] | '\\' :: _ => .error .badEscape
    | c :: rest => .ok ([c], mode.skip rest)
  if mode.ascii then .error .unknownClass
  let some (inverted, set) := unicodeClass? name | .error .unknownClass
  return (← mode.negateWhen (negated != inverted) (mode.closeCase set), rest)

def letterClass (mode : Mode) (c : Char) : Reader CharSet :=
  let name := match asciiLower c with
    | 'd' => "digit"
    | 's' => "space"
    | _ => "word"
  let set :=
    if mode.ascii then (asciiClass? name).getD .empty
    else if name == "digit" then inCategories ["nd"]
    else if name == "space" then withProperties ["whitespace"]
    else wordCharacters
  mode.negateWhen ('A' ≤ c && c ≤ 'Z') set

def readBoundary (mode : Mode) (cs : List Char) : Reader (Assertion × List Char) :=
  let isNameChar (c : Char) := isAsciiLetter c || c == '-'
  let plain : Assertion := .wordBoundary mode.ascii
  match cs with
  | '\x7b' :: rest =>
      match mode.skip rest with
      | [] => .error .badBoundary
      | c :: body =>
          if !isNameChar c then .ok (plain, cs)
          else
            match mode.takeWhile isNameChar cs.length (c :: body) with
            | (name, '\x7d' :: after) =>
                match String.ofList name with
                | "start" => .ok (.wordStart mode.ascii, after)
                | "end" => .ok (.wordEnd mode.ascii, after)
                | "start-half" => .ok (.notAfterWord mode.ascii, after)
                | "end-half" => .ok (.notBeforeWord mode.ascii, after)
                | _ => .error .badBoundary
            | _ => .error .badBoundary
  | _ => .ok (plain, cs)

def readEscape (mode : Mode) : List Char → Reader (Atom × List Char)
  | [] => .error .badEscape
  | c :: rest => do
      if isAsciiDigit c then .error .backReference
      else if c == 'x' || c == 'u' || c == 'U' then
        let (d, rest) ← match mode.skip rest with
          | '\x7b' :: body => readBracedHex mode body
          | body => readHex mode (if c == 'x' then 2 else if c == 'u' then 4 else 8) body
        return (.literal d, rest)
      else if c == 'p' || c == 'P' then
        let (set, rest) ← readUnicodeClass mode (c == 'P') rest
        return (.charSet set, rest)
      else if "dswDSW".toList.contains c then return (.charSet (← letterClass mode c), rest)
      else if isEscapable c then return (.literal c, rest)
      else
        match c with
        | 'a' => return (.literal '\x07', rest)
        | 'f' => return (.literal '\x0c', rest)
        | 't' => return (.literal '\t', rest)
        | 'n' => return (.literal '\n', rest)
        | 'r' => return (.literal '\r', rest)
        | 'v' => return (.literal '\x0b', rest)
        | 'A' => return (.assertion .textStart, rest)
        | 'z' => return (.assertion .textEnd, rest)
        | 'b' => do
            let (what, rest) ← readBoundary mode rest
            return (.assertion what, rest)
        | 'B' => return (.assertion (.notWordBoundary mode.ascii), rest)
        | '<' => return (.assertion (.wordStart mode.ascii), rest)
        | '>' => return (.assertion (.wordEnd mode.ascii), rest)
        | _ => .error .badEscape

end Atom

namespace Mode

def atom (mode : Mode) : Atom → Expr
  | .literal c => .ofSet (mode.closeCase (.single c))
  | .assertion what => .assertion what
  | .charSet set => .ofSet set

def dot (mode : Mode) : Reader Expr :=
  if mode.ascii then .error .insideCharacter
  else if mode.dotMatchesLineFeed then .ok (.oneOf .all)
  else if mode.carriageReturns then .ok (.oneOf (CharSet.ofTable "A D").complement)
  else .ok (.oneOf (CharSet.single '\n').complement)

def lineStart (mode : Mode) : Assertion :=
  if !mode.multiLine then .textStart
  else if mode.carriageReturns then .lineStartCr else .lineStart

def lineEnd (mode : Mode) : Assertion :=
  if !mode.multiLine then .textEnd
  else if mode.carriageReturns then .lineEndCr else .lineEnd

end Mode

end TagAudit.Pattern
