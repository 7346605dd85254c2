import TagAudit.Pattern.Bracket
import TagAudit.Pattern.Footprint
import TagAudit.Pattern.Program
import TagAudit.Unicode.Latest

/-! Reading a pattern from its text, and the reasons why a text is no pattern. -/

namespace TagAudit.Pattern

open Text Unicode

structure Source where
  rest : List Char
  mode : Mode
  /-- The group names in use. -/
  names : List (List Char)
  /-- Number of groups read. -/
  groups : Nat

structure Nested where
  expr : Expr
  depth : Nat

def depthLimit : Nat := 250

/-- Reads a decimal number with blanks around it. -/
def readDecimal (mode : Mode) (cs : List Char) : Option Nat × List Char :=
  let (digits, rest) := mode.takeWhile isAsciiDigit cs.length (cs.dropWhile isBlank)
  (((digits? 10 digits).filter (· < bitLimit 32)), skipBlanks mode rest.length rest)
where
  /-- Skips blanks, and comments after each of them. -/
  skipBlanks (mode : Mode) : Nat → List Char → List Char
    | fuel + 1, c :: rest =>
        if isBlank c then skipBlanks mode fuel (mode.skip rest) else c :: rest
    | _, cs => cs

def readBounds (mode : Mode) (cs : List Char) : Reader (Nat × Option Nat × List Char) := do
  let (least, rest) := readDecimal mode (mode.skip cs)
  let (least, most, rest) ← match rest, least with
    | ',' :: rest, some least =>
        match mode.skip rest with
        | '\x7d' :: rest => .ok (least, none, '\x7d' :: rest)
        | rest =>
            match readDecimal mode rest with
            | (some most, rest) => .ok (least, some most, rest)
            | (none, _) => .error PatternError.badCount
    | _, some least => .ok (least, some least, rest)
    | _, none => .error .badCount
  match rest with
  | '\x7d' :: rest =>
      if most.any (· < least) then .error .badCount else return (least, most, mode.skip rest)
  | _ => .error .badCount

def Mode.set? (mode : Mode) (c : Char) (on : Bool) : Option Mode :=
  match c with
  | 'i' => some { mode with ignoreCase := on }
  | 'm' => some { mode with multiLine := on }
  | 's' => some { mode with dotMatchesLineFeed := on }
  | 'U' => some mode
  | 'u' => some { mode with ascii := !on }
  | 'R' => some { mode with carriageReturns := on }
  | 'x' => some { mode with verbose := on }
  | _ => none

/-- Reads flags up to a colon or a closing parenthesis.  `seen` holds the flags and
the minus sign already read. -/
def readFlags : Mode → List Char → List Char → Reader (Mode × Bool × Bool × List Char)
  | _, _, [] => .error .badFlags
  | mode, seen, c :: rest =>
      if c = ':' || c = ')' then
        if seen.head? = some '-' then .error .badFlags
        else .ok (mode, seen.isEmpty, c = ')', rest)
      else if seen.contains c then .error .badFlags
      else if c = '-' then readFlags mode (c :: seen) rest
      else
        match mode.set? c (!seen.contains '-') with
        | some mode => readFlags mode (c :: seen) rest
        | none => .error .badFlags

def readGroupName (cs : List Char) : Reader (List Char × List Char) :=
  let name := cs.takeWhile (· ≠ '>')
  let starts (c : Char) := c == '_' || isAlphabetic c
  let continues (c : Char) := starts c || c == '.' || c == '[' || c == ']' || isNumeric c
  match cs.dropWhile (· ≠ '>'), name with
  | [], _ | _, [] => .error .badGroupName
  | _ :: rest, c :: more =>
      if starts c && more.all continues then .ok (name, rest) else .error .badGroupName

inductive GroupHead where
  /-- Flags for the rest of the group around them. -/
  | flags (mode : Mode)
  /-- A group, whether it is numbered, and its name. -/
  | group (mode : Mode) (captured : Bool) (name : Option (List Char))

def readGroupHead (mode : Mode) (cs : List Char) : Reader (GroupHead × List Char) := do
  match mode.skip cs with
  | '?' :: '=' :: _ | '?' :: '!' :: _ => .error .lookAround
  | '?' :: '<' :: '=' :: _ | '?' :: '<' :: '!' :: _ => .error .lookAround
  | '?' :: 'P' :: '<' :: rest | '?' :: '<' :: rest =>
      let (name, rest) ← readGroupName rest
      return (.group mode true (some name), rest)
  | '?' :: rest =>
      if rest.isEmpty then .error .unclosedGroup
      let (inner, noFlags, closed, rest) ← readFlags mode [] rest
      if closed then
        if noFlags then .error .nothingToRepeat else return (.flags inner, rest)
      else return (.group inner false none, rest)
  | rest => return (.group mode true none, rest)

/-- An element of a sequence: a pattern, or flags that match nothing. -/
inductive Element where
  | pattern (nested : Nested)
  | flags

namespace Element

def nested : Element → Nested
  | pattern nested => nested
  | flags => ⟨.empty, 0⟩

def sequence : List Element → Nested
  | [] => ⟨.empty, 0⟩
  | [only] => only.nested
  | elements =>
      let parts := elements.reverse.map nested
      ⟨.sequenceOf (parts.map Nested.expr),
        (parts.foldl (fun depth part => max depth part.depth) 0) + 1⟩

def repeatLast (least : Nat) (most : Option Nat) : List Element → Reader (List Element)
  | pattern nested :: before =>
      .ok (pattern ⟨.repetitionOf nested.expr least most, nested.depth + 1⟩ :: before)
  | _ => .error .nothingToRepeat

end Element

def choiceOf : List Nested → Nested
  | [] => ⟨.empty, 0⟩
  | [only] => only
  | nested =>
      ⟨.choiceOf (nested.reverse.map Nested.expr),
        (nested.foldl (fun depth part => max depth part.depth) 0) + 1⟩

/-- Drops the question mark that makes a repetition lazy. -/
def dropLazy : List Char → List Char
  | '?' :: rest => rest
  | cs => cs

/-- Reads alternatives up to a closing parenthesis or the end of the text.
`branches` and `elements` hold what has been read, last first, and `fuel` bounds
the elements to read. -/
def readBranches :
    Nat → List Nested → List Element → Source → Reader (Nested × Source)
  | 0, _, _, _ => .error .tooDeep
  | fuel + 1, branches, elements, source => do
      let mode := source.mode
      let cs := mode.skip source.rest
      let push (e : Expr) (depth : Nat) (rest : List Char) :=
        readBranches fuel branches (.pattern ⟨e, depth⟩ :: elements) { source with rest := rest }
      match cs with
      | [] | ')' :: _ =>
          return (choiceOf (Element.sequence elements :: branches), { source with rest := cs })
      | '|' :: rest =>
          readBranches fuel (Element.sequence elements :: branches) []
            { source with rest := rest }
      | '(' :: rest =>
          match ← readGroupHead mode rest with
          | (.flags inner, rest) =>
              readBranches fuel branches (.flags :: elements)
                { source with rest := rest, mode := inner }
          | (.group inner captured name, rest) =>
              if name.any source.names.contains then .error .badGroupName
              let names := name.toList ++ source.names
              let index := source.groups + 1
              let groups := if captured then index else source.groups
              let (body, after) ← readBranches fuel [] [] ⟨rest, inner, names, groups⟩
              let group := if captured then .group index body.expr else body.expr
              match after.rest with
              | ')' :: rest =>
                  readBranches fuel branches (.pattern ⟨group, body.depth + 1⟩ :: elements)
                    ⟨rest, mode, after.names, after.groups⟩
              | _ => .error .unclosedGroup
      | '[' :: rest =>
          let (set, depth, rest) ← readClass mode rest
          push (.ofSet set) depth rest
      | '?' :: rest =>
          let elements ← Element.repeatLast 0 (some 1) elements
          readBranches fuel branches elements { source with rest := dropLazy rest }
      | '*' :: rest =>
          let elements ← Element.repeatLast 0 none elements
          readBranches fuel branches elements { source with rest := dropLazy rest }
      | '+' :: rest =>
          let elements ← Element.repeatLast 1 none elements
          readBranches fuel branches elements { source with rest := dropLazy rest }
      | '\x7b' :: rest =>
          let (least, most, rest) ← readBounds mode rest
          let elements ← Element.repeatLast least most elements
          readBranches fuel branches elements { source with rest := dropLazy rest }
      | '\\' :: rest =>
          let (atom, rest) ← Atom.readEscape mode rest
          push (mode.atom atom) 0 rest
      | '.' :: rest => push (← mode.dot) 0 rest
      | '^' :: rest => push (.assertion mode.lineStart) 0 rest
      | '$' :: rest => push (.assertion mode.lineEnd) 0 rest
      | c :: rest => push (mode.atom (.literal c)) 0 rest

def parse (text : String) : Reader Expr := do
  let cs := text.toList
  let (nested, source) ← readBranches (2 * cs.length + 2) [] [] ⟨cs, .initial, [], 0⟩
  if !source.rest.isEmpty then .error .unopenedGroup
  else if nested.depth > depthLimit then .error .tooDeep
  else return nested.expr

def read (text : String) : Reader Expr := do
  let expr ← parse text
  if expr.fits then return expr else .error .tooLarge

end TagAudit.Pattern

namespace TagAudit

structure NamePattern where
  text : String
  program : Pattern.Program

namespace NamePattern

def ofText (text : String) : Except Pattern.PatternError NamePattern := do
  return ⟨text, .ofExpr (← Pattern.read text)⟩

def accepts (pattern : NamePattern) (name : String) : Bool :=
  pattern.program.matchesIn name.toList

end NamePattern

end TagAudit
