import Std.Data.HashMap
import TagAudit.Pattern.Encoding
import TagAudit.Pattern.Expr

/-! How large a pattern is when it is spelled out in steps that read single bytes,
both from the front and from the back.  Patterns that are too large are refused.
Common parts of sets of characters are shared as far as two small tables remember
them, so that the size is that of the steps that are really made. -/

namespace TagAudit.Pattern

open Text Unicode

/-- The bytes that steps take: a fixed number for each one, and room for the places
that a step leads to. -/
structure Footprint where
  steps : Nat
  room : Nat
deriving DecidableEq, Repr

inductive Direction where
  | forward
  | backward
deriving DecidableEq, Repr

namespace Footprint

def stepSize : Nat := 32

def rangeSize : Nat := 8

def branchSize : Nat := 4

def limit : Nat := 10 * 1024 * 1024

def size (footprint : Footprint) : Nat :=
  stepSize * footprint.steps + footprint.room

def add (steps room : Nat) (footprint : Footprint) : Option Footprint :=
  let footprint : Footprint := ⟨footprint.steps + steps, footprint.room + room⟩
  if footprint.size ≤ limit then some footprint else none

/-- Adds what `measure` adds, `count` times. -/
def times (measure : Footprint → Option Footprint) : Nat → Footprint → Option Footprint
  | 0, footprint => some footprint
  | count + 1, footprint => (measure footprint).bind (times measure count)

end Footprint

def slotOf (size : Nat) (numbers : List Nat) : Nat :=
  let mix (hash : UInt64) (n : Nat) := (hash ^^^ n.toUInt64) * 1099511628211
  (numbers.foldl mix 14695981039346656037).toNat % size

/-! Sets of characters, from the front: a tree of byte ranges in which equal parts
are shared. -/

structure Edge where
  range : CodeRange
  next : Nat
deriving DecidableEq

structure SharedSteps where
  footprint : Footprint
  known : Std.HashMap Nat (List Edge × Nat)

namespace SharedSteps

def slots : Nat := 10000

def stepFor (shared : SharedSteps) (edges : List Edge) : Option (Nat × SharedSteps) :=
  let ⟨footprint, known⟩ := shared
  let slot := slotOf slots (edges.flatMap fun edge =>
    [edge.range.first, edge.range.last, edge.next])
  match known[slot]?.filter (·.1 = edges) with
  | some (_, step) => some (step, ⟨footprint, known⟩)
  | none =>
      (footprint.add 1 (Footprint.rangeSize * edges.length)).map fun larger =>
        (footprint.steps, ⟨larger, known.insert slot (edges, footprint.steps)⟩)

end SharedSteps

def groupByHead (sequences : List (List CodeRange)) : List (CodeRange × List (List CodeRange)) :=
  sequences.foldr (fun ranges groups =>
    match ranges, groups with
    | [], groups => groups
    | range :: rest, (head, rests) :: others =>
        if range = head then (head, (rest :: rests)) :: others
        else (range, [rest]) :: (head, rests) :: others
    | range :: rest, [] => [(range, [rest])]) []

/-- The step that reads one of the sequences and leads to `target`.  `fuel` is the
length of the longest sequence. -/
def treeStep (target : Nat) :
    Nat → List (List CodeRange) → SharedSteps → Option (Nat × SharedSteps)
  | 0, _, shared => some (target, shared)
  | fuel + 1, sequences, shared => do
      if sequences.all List.isEmpty then return (target, shared)
      let (edges, shared) ← (groupByHead sequences).foldlM (fun (edges, shared) (range, rests) => do
        let (next, shared) ← treeStep target fuel rests shared
        return (⟨range, next⟩ :: edges, shared)) ([], shared)
      shared.stepFor edges.reverse

def longestCharacter : Nat := 4

def measureTree (sequences : List (List CodeRange)) (footprint : Footprint) :
    Option Footprint := do
  let target := footprint.steps
  let footprint ← footprint.add 1 0
  let (_, shared) ← treeStep target longestCharacter sequences ⟨footprint, ∅⟩
  return shared.footprint

/-! Sets of characters, from the back: a chain for each sequence, with equal ends
shared. -/

structure SharedChains where
  footprint : Footprint
  known : Std.HashMap Nat (Edge × Nat)

namespace SharedChains

def slots : Nat := 1000

def stepFor (shared : SharedChains) (next : Nat) (range : CodeRange) :
    Option (Nat × SharedChains) :=
  let ⟨footprint, known⟩ := shared
  let edge : Edge := ⟨range, next⟩
  let slot := slotOf slots [next, range.first, range.last]
  match known[slot]?.filter (·.1 = edge) with
  | some (_, step) => some (step, ⟨footprint, known⟩)
  | none =>
      (footprint.add 1 0).map fun larger =>
        (footprint.steps, ⟨larger, known.insert slot (edge, footprint.steps)⟩)

def addChain (target : Nat) (shared : SharedChains) (ranges : List CodeRange) :
    Option SharedChains := do
  let (_, ⟨footprint, known⟩) ← ranges.foldlM (fun (next, shared) range =>
    shared.stepFor next range) (target, shared)
  return ⟨← footprint.add 0 Footprint.branchSize, known⟩

end SharedChains

def measureChains (sequences : List (List CodeRange)) (footprint : Footprint) :
    Option Footprint := do
  let footprint ← footprint.add 2 0
  let shared ← sequences.foldlM (SharedChains.addChain (footprint.steps - 1)) ⟨footprint, ∅⟩
  return shared.footprint

def measureSet (direction : Direction) (set : CharSet) (footprint : Footprint) :
    Option Footprint :=
  if set.isAscii then footprint.add 2 (Footprint.rangeSize * set.ranges.length)
  else
    let sequences := set.ranges.flatMap byteSequences
    match direction with
    | .forward => measureTree sequences footprint
    | .backward => measureChains sequences footprint

/-! Choices between literals: a tree of single bytes. -/

/-- What the literals at a node of the tree go on with.  A literal that ends at the
node closes the bytes read before it. -/
structure LiteralNode where
  closed : List (List (Nat × List (List Nat)))
  /-- The bytes that literals go on with, and the rests of these literals. -/
  current : List (Nat × List (List Nat))

namespace LiteralNode

def insert (byte : Nat) (rest : List Nat) :
    List (Nat × List (List Nat)) → List (Nat × List (List Nat))
  | [] => [(byte, [rest])]
  | (other, rests) :: more =>
      if byte = other then (byte, rests ++ [rest]) :: more
      else (other, rests) :: insert byte rest more

def add (node : LiteralNode) : List Nat → LiteralNode
  | [] =>
      if node.current.isEmpty && !node.closed.isEmpty && node.closed.all List.isEmpty then node
      else ⟨node.closed ++ [node.current], []⟩
  | byte :: rest => { node with current := insert byte rest node.current }

def ofLiterals (literals : List (List Nat)) : LiteralNode :=
  literals.foldl add ⟨[], []⟩

end LiteralNode

/-- Adds the steps of a node of the tree and of those below it.  `fuel` is the
length of the longest literal. -/
def measureLiterals : Nat → List (List Nat) → Footprint → Option Footprint
  | 0, _, footprint => footprint.add 1 0
  | fuel + 1, literals, footprint => do
      let node := LiteralNode.ofLiterals literals
      let chunks := node.closed ++ [node.current]
      let footprint ← chunks.flatten.foldlM (fun footprint (_, rests) =>
        if rests.all List.isEmpty then some footprint
        else measureLiterals fuel rests footprint) footprint
      let filled := chunks.filter fun chunk => !chunk.isEmpty
      let ranges := (filled.filter fun chunk => chunk.length ≠ 1).flatten.length
      footprint.add (filled.length + 1) (Footprint.rangeSize * ranges +
        Footprint.branchSize * (filled.length + node.closed.length))

namespace Expr

def bytes? : Expr → Option (List Nat)
  | literal chars => some (chars.flatMap fun c => encode c.toNat)
  | _ => none

mutual

def measure (direction : Direction) : Expr → Footprint → Option Footprint
  | empty, footprint | assertion _, footprint => footprint.add 1 0
  | literal chars, footprint => footprint.add (byteSize chars) 0
  | oneOf set, footprint => measureSet direction set footprint
  | group _ body, footprint =>
      match direction with
      | .forward => do (← body.measure direction (← footprint.add 1 0)).add 1 0
      | .backward => body.measure direction footprint
  | repetition body least most, footprint => do
      let measureBody (footprint : Footprint) := body.measure direction footprint
      let option (footprint : Footprint) := do
        measureBody (← footprint.add 1 (2 * Footprint.branchSize))
      match least, most with
      | 0, none =>
          if body.hasWidth? = some true then option footprint
          else (← measureBody footprint).add 3 (4 * Footprint.branchSize)
      | least, none =>
          (← Footprint.times measureBody least footprint).add 1 (2 * Footprint.branchSize)
      | 0, some 1 => (← option footprint).add 1 0
      | least, some most =>
          let footprint ←
            if least = 0 then footprint.add 1 0
            else Footprint.times measureBody least footprint
          if least = most then return footprint
          else Footprint.times option (most - least) (← footprint.add 1 0)
  | sequence parts, footprint =>
      match direction with
      | .forward => measureParts parts footprint
      | .backward => measureBack parts footprint
  | choice alternatives, footprint =>
      match alternatives.mapM bytes? with
      | some literals => do
          let literals := match direction with
            | .forward => literals
            | .backward => literals.map List.reverse
          measureLiterals (literals.flatten.length + 1) literals (← footprint.add 1 0)
      | none => measureAlternatives direction 0 alternatives footprint

def measureParts : List Expr → Footprint → Option Footprint
  | [], footprint => some footprint
  | e :: rest, footprint => do measureParts rest (← e.measure .forward footprint)

def measureBack : List Expr → Footprint → Option Footprint
  | [], footprint => some footprint
  | e :: rest, footprint => do e.measure .backward (← measureBack rest footprint)

/-- Adds what alternatives take.  The steps that lead to them and away from them
are made after the second one. -/
def measureAlternatives (direction : Direction) :
    Nat → List Expr → Footprint → Option Footprint
  | _, [], footprint => some footprint
  | before, e :: rest, footprint => do
      let footprint ← e.measure direction footprint
      let ends := if before = 1 then 2 else 0
      let footprint ← footprint.add ends Footprint.branchSize
      measureAlternatives direction (before + 1) rest footprint

end

mutual

def beginsWith (what : Assertion) : Expr → Bool
  | assertion other => other == what
  | group _ body => body.beginsWith what
  | repetition body least _ => least != 0 && body.beginsWith what
  | sequence parts => somePartBegins what parts
  | choice alternatives => !alternatives.isEmpty && allBegin what alternatives
  | empty | literal _ | oneOf _ => false

def somePartBegins (what : Assertion) : List Expr → Bool
  | [] => false
  | e :: rest => e.beginsWith what || (e.hasNoWidth && somePartBegins what rest)

def allBegin (what : Assertion) : List Expr → Bool
  | [] => true
  | e :: rest => e.beginsWith what && allBegin what rest

end

mutual

def endsWith (what : Assertion) : Expr → Bool
  | assertion other => other == what
  | group _ body => body.endsWith what
  | repetition body least _ => least != 0 && body.endsWith what
  | sequence parts => somePartEnds what parts
  | choice alternatives => !alternatives.isEmpty && allEnd what alternatives
  | empty | literal _ | oneOf _ => false

def somePartEnds (what : Assertion) : List Expr → Bool
  | [] => false
  | e :: rest => somePartEnds what rest || (allHaveNoWidth rest && e.endsWith what)

def allEnd (what : Assertion) : List Expr → Bool
  | [] => true
  | e :: rest => e.endsWith what && allEnd what rest

end

/-- The footprint of a whole pattern; `none` when it is too large.  A pattern that
may begin anywhere starts with steps that skip characters. -/
def footprint? (direction : Direction) (e : Expr) : Option Footprint := do
  let bound := match direction with
    | .forward => e.beginsWith .textStart
    | .backward => e.endsWith .textEnd
  let skipRoom := Footprint.rangeSize + 2 * Footprint.branchSize
  let start ← if bound then Footprint.add 1 0 ⟨0, 0⟩ else Footprint.add 3 skipRoom ⟨0, 0⟩
  (← (group 0 e).measure direction start).add 1 0

def fits (e : Expr) : Bool :=
  (e.footprint? .forward).isSome && (e.footprint? .backward).isSome

end Expr

end TagAudit.Pattern
