/-! Text as a list of characters.  Positions in a text count the bytes of its
UTF-8 form, and lines end at a line feed. -/

namespace TagAudit.Text

/-- The characters with the Unicode property `White_Space`. -/
def isBlank (c : Char) : Bool :=
  let n := c.toNat
  (9 ≤ n && n ≤ 13) || n == 0x20 || n == 0x85 || n == 0xA0 || n == 0x1680 ||
    (0x2000 ≤ n && n ≤ 0x200A) || n == 0x2028 || n == 0x2029 || n == 0x202F ||
    n == 0x205F || n == 0x3000

def trimStart (cs : List Char) : List Char :=
  cs.dropWhile isBlank

def trimEnd (cs : List Char) : List Char :=
  (cs.reverse.dropWhile isBlank).reverse

def trim (cs : List Char) : List Char :=
  trimEnd (trimStart cs)

def byteSize (cs : List Char) : Nat :=
  cs.foldl (fun n c => n + c.utf8Size) 0

/-- The characters that start before byte `n`. -/
def takeBytes (n : Nat) : List Char → List Char
  | [] => []
  | c :: rest => if n = 0 then [] else c :: takeBytes (n - c.utf8Size) rest

/-- The characters that start at byte `n` or later. -/
def dropBytes (n : Nat) : List Char → List Char
  | [] => []
  | c :: rest => if n = 0 then c :: rest else dropBytes (n - c.utf8Size) rest

def slice (first last : Nat) (cs : List Char) : List Char :=
  takeBytes (last - first) (dropBytes first cs)

structure Place where
  /-- The text before it on its line. -/
  before : List Char
  /-- The text after it. -/
  after : List Char
  /-- The bytes by which it lies past the end of the text. -/
  excess : Nat
deriving DecidableEq, Repr

namespace Place

/-- Looks for byte `n`, after `length` characters of `line` have been passed. -/
def findFrom (n : Nat) (line : List Char) (length : Nat) : List Char → Option Place
  | [] => some ⟨line.take length, [], n⟩
  | c :: rest =>
      if n = 0 then some ⟨line.take length, c :: rest, 0⟩
      else if n < c.utf8Size then none
      else if c = '\n' then findFrom (n - c.utf8Size) rest 0 rest
      else findFrom (n - c.utf8Size) line (length + 1) rest

/-- The place of byte `n` in a text; none inside a character. -/
def find? (n : Nat) (cs : List Char) : Option Place :=
  findFrom n cs 0 cs

end Place

def linesWithEnds : List Char → List (List Char)
  | [] => []
  | c :: rest =>
      if c = '\n' then ['\n'] :: linesWithEnds rest
      else
        match linesWithEnds rest with
        | [] => [[c]]
        | line :: lines => (c :: line) :: lines

def chomp (line : List Char) : List Char :=
  match line.reverse with
  | '\n' :: '\r' :: rest => rest.reverse
  | '\n' :: rest => rest.reverse
  | _ => line

/-- The lines of a text without their ends; a final line end opens no line. -/
def lines (cs : List Char) : List (List Char) :=
  (linesWithEnds cs).map chomp

/-- The text of the last line, which is empty after a final line feed. -/
def lastLine (cs : List Char) : List Char :=
  (cs.reverse.takeWhile (· ≠ '\n')).reverse

def dropLead? : List Char → List Char → Option (List Char)
  | [], cs => some cs
  | _ :: _, [] => none
  | l :: lead, c :: cs => if l = c then dropLead? lead cs else none

/-- The text with `new` in place of every occurrence of the nonempty `old` that does not
overlap an earlier one; `skip` characters of the last one are still to be passed. -/
def replaceFrom (old new : List Char) : Nat → List Char → List Char
  | _, [] => []
  | skip + 1, _ :: rest => replaceFrom old new skip rest
  | 0, c :: rest =>
      if old.isPrefixOf (c :: rest) then new ++ replaceFrom old new (old.length - 1) rest
      else c :: replaceFrom old new 0 rest

/-- The text with `new` in place of every occurrence of `old` that does not overlap an
earlier one.  The empty text occurs around every character. -/
def replaceAll (s old new : String) : String :=
  let cs := s.toList
  if old.isEmpty then
    String.ofList (new.toList ++ cs.flatMap fun c => c :: new.toList)
  else String.ofList (replaceFrom old.toList new.toList 0 cs)

def splitAt? (c : Char) : List Char → Option (List Char × List Char)
  | [] => none
  | d :: rest =>
      if d = c then some ([], rest)
      else (splitAt? c rest).map fun (before, after) => (d :: before, after)

/-- The parts between the occurrences of `c`; always at least one. -/
def splitOn (c : Char) : List Char → List (List Char)
  | [] => [[]]
  | d :: rest =>
      if d = c then [] :: splitOn c rest
      else
        match splitOn c rest with
        | [] => [[d]]
        | part :: parts => (d :: part) :: parts

def joinLines (parts : List (List Char)) : List Char :=
  ['\n'].intercalate parts

def isAsciiLetter (c : Char) : Bool :=
  ('a' ≤ c && c ≤ 'z') || ('A' ≤ c && c ≤ 'Z')

def isAsciiDigit (c : Char) : Bool :=
  '0' ≤ c && c ≤ '9'

/-- Lowercases `A` to `Z` and nothing else. -/
def asciiLower (c : Char) : Char :=
  if 'A' ≤ c && c ≤ 'Z' then Char.ofNat (c.toNat + 32) else c

def strip (s : String) : String :=
  String.ofList (trim s.toList)

end TagAudit.Text
