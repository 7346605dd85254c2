import TagAudit.Pattern.Escape

/-! Classes in brackets: characters, ranges, named and nested classes, and set
operations between them. -/

namespace TagAudit.Pattern

open Text Unicode

inductive SetOperation where
  | intersection
  | difference
  | symmetricDifference
deriving DecidableEq, Repr

namespace SetOperation

def apply : SetOperation → CharSet → CharSet → CharSet
  | intersection => CharSet.intersection
  | difference => CharSet.difference
  | symmetricDifference => CharSet.symmetricDifference

def read? : List Char → Option (SetOperation × List Char)
  | '&' :: '&' :: rest => some (intersection, rest)
  | '-' :: '-' :: rest => some (difference, rest)
  | '~' :: '~' :: rest => some (symmetricDifference, rest)
  | _ => none

end SetOperation

/-- The items of a class that have been read: their union, how many they are and
how deeply they are nested. -/
structure ClassItems where
  set : CharSet
  count : Nat
  depth : Nat

namespace ClassItems

def empty : ClassItems := ⟨.empty, 0, 0⟩

def push (items : ClassItems) (set : CharSet) (depth : Nat) : ClassItems :=
  ⟨items.set.union set, items.count + 1, max items.depth depth⟩

def unionDepth (items : ClassItems) : Nat :=
  if items.count ≤ 1 then items.depth else items.depth + 1

end ClassItems

structure Operand where
  operation : SetOperation
  left : CharSet
  depth : Nat

/-- The set of the items, after the operation that waits for them, and its depth. -/
def Mode.complete (mode : Mode) (pending : Option Operand) (items : ClassItems) : CharSet × Nat :=
  match pending with
  | none => (items.set, items.unionDepth)
  | some operand =>
      (operand.operation.apply (mode.closeCase operand.left) (mode.closeCase items.set),
        max operand.depth items.unionDepth + 1)

def readAsciiClass? (cs : List Char) : Option (Bool × CharSet × List Char) := do
  let body ← dropLead? ['[', ':'] cs
  let (negated, body) := match body with
    | '^' :: rest => (true, rest)
    | _ => (false, body)
  let name := body.takeWhile (· ≠ ':')
  let rest ← dropLead? [':', ']'] (body.dropWhile (· ≠ ':'))
  let set ← asciiClass? (String.ofList name)
  return (negated, set, rest)

def readClassAtom (mode : Mode) : List Char → Reader (Atom × List Char)
  | [] => .error .unclosedClass
  | '\\' :: rest => Atom.readEscape mode rest
  | c :: rest => .ok (.literal c, rest)

/-- A character of a class.  In ASCII mode it must be one byte. -/
def classCharacter (mode : Mode) (c : Char) : Reader Char :=
  if mode.ascii && 0x80 ≤ c.toNat then .error .insideCharacter else .ok c

def classItem (mode : Mode) : Atom → Reader CharSet
  | .literal c => return .single (← classCharacter mode c)
  | .charSet set => .ok set
  | .assertion _ => .error .badClassItem

/-- The character after a hyphen that decides whether the hyphen writes a range.  In
verbose mode it is the first one after blanks, or after a number sign and more
blanks. -/
def afterHyphen? (mode : Mode) (cs : List Char) : Option Char :=
  if !mode.verbose then cs.head?
  else
    match cs.dropWhile isBlank with
    | '#' :: rest => (rest.dropWhile isBlank).head?
    | rest => rest.head?

def readClassRange (mode : Mode) (cs : List Char) : Reader (CharSet × List Char) := do
  let (first, rest) ← readClassAtom mode cs
  match mode.skip rest with
  | [] => .error .unclosedClass
  | '-' :: after =>
      let next := afterHyphen? mode after
      if next == some ']' || next == some '-' then
        return (← classItem mode first, '-' :: after)
      else
        let (last, rest) ← readClassAtom mode (mode.skip after)
        match first, last with
        | .literal a, .literal b =>
            if b < a then .error .badRange
            else
              return (.range (← classCharacter mode a).toNat (← classCharacter mode b).toNat, rest)
        | _, _ => .error .badRange
  | rest => return (← classItem mode first, rest)

def readClassOpening (mode : Mode) (cs : List Char) :
    Reader (Bool × ClassItems × List Char) := do
  let cs := mode.skip cs
  let (negated, cs) := match cs with
    | '^' :: rest => (true, mode.skip rest)
    | _ => (false, cs)
  let (items, cs) := hyphens cs.length cs .empty
  match cs with
  | [] => .error .unclosedClass
  | ']' :: rest =>
      if items.count = 0 then
        let rest := mode.skip rest
        if rest.isEmpty then .error .unclosedClass
        else return (negated, items.push (.single ']') 0, rest)
      else return (negated, items, cs)
  | _ => return (negated, items, cs)
where
  hyphens : Nat → List Char → ClassItems → ClassItems × List Char
    | fuel + 1, '-' :: rest, items =>
        hyphens fuel (mode.skip rest) (items.push (.single '-') 0)
    | _, cs, items => (items, cs)

/-- Reads a class up to its closing bracket.  `fuel` bounds the items to read. -/
def readClassBody (mode : Mode) :
    Nat → Bool → Option Operand → ClassItems → List Char → Reader (CharSet × Nat × List Char)
  | 0, _, _, _, _ => .error .unclosedClass
  | fuel + 1, negated, pending, items, cs => do
      match mode.skip cs with
      | [] => .error .unclosedClass
      | ']' :: rest =>
          let (set, depth) := mode.complete pending items
          return (← mode.negateWhen negated (mode.closeCase set), depth + 1, rest)
      | '[' :: rest =>
          match readAsciiClass? ('[' :: rest) with
          | some (inverted, set, rest) =>
              let set ← mode.negateWhen inverted (mode.closeCase set)
              readClassBody mode fuel negated pending (items.push set 0) rest
          | none =>
              let (innerNegated, innerItems, inner) ← readClassOpening mode rest
              let (set, depth, rest) ← readClassBody mode fuel innerNegated none innerItems inner
              readClassBody mode fuel negated pending (items.push set depth) rest
      | cs =>
          match SetOperation.read? cs with
          | some (operation, rest) =>
              let (set, depth) := mode.complete pending items
              readClassBody mode fuel negated (some ⟨operation, set, depth⟩) .empty rest
          | none =>
              let (set, rest) ← readClassRange mode cs
              readClassBody mode fuel negated pending (items.push set 0) rest

def readClass (mode : Mode) (cs : List Char) : Reader (CharSet × Nat × List Char) := do
  let (negated, items, body) ← readClassOpening mode cs
  readClassBody mode (body.length + 1) negated none items body

end TagAudit.Pattern
