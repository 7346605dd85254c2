import TagAudit.Pattern.Assertion

/-! Patterns in a simple form.  Sequences and choices are never nested in one of
their own kind, a sequence has no empty part and no two literals in a row, and a
set of one character is a literal. -/

namespace TagAudit.Pattern

open Unicode

inductive Expr where
  | empty
  | literal (chars : List Char)
  /-- One character of a set. -/
  | oneOf (set : CharSet)
  | assertion (what : Assertion)
  | group (index : Nat) (body : Expr)
  /-- At least `least` and at most `most` times the pattern. -/
  | repetition (body : Expr) (least : Nat) (most : Option Nat)
  | sequence (parts : List Expr)
  | choice (alternatives : List Expr)

namespace Expr

mutual

/-- Whether two patterns are written alike.  No group is like another. -/
def isLike : Expr → Expr → Bool
  | empty, empty => true
  | literal chars, literal others => chars == others
  | oneOf set, oneOf other => set == other
  | assertion what, assertion other => what == other
  | repetition body least most, repetition other otherLeast otherMost =>
      body.isLike other && least == otherLeast && most == otherMost
  | sequence parts, sequence others => allLike parts others
  | choice alternatives, choice others => allLike alternatives others
  | _, _ => false

def allLike : List Expr → List Expr → Bool
  | [], [] => true
  | e :: rest, other :: others => e.isLike other && allLike rest others
  | _, _ => false

end

mutual

def hasNoWidth : Expr → Bool
  | empty | assertion _ => true
  | literal chars => chars.isEmpty
  | oneOf _ => false
  | group _ body => body.hasNoWidth
  | repetition body _ _ => body.hasNoWidth
  | sequence parts => allHaveNoWidth parts
  | choice alternatives => allHaveNoWidth alternatives

def allHaveNoWidth : List Expr → Bool
  | [] => true
  | e :: rest => e.hasNoWidth && allHaveNoWidth rest

end

mutual

/-- Whether every match has a character; `none` when an empty set leaves it open. -/
def hasWidth? : Expr → Option Bool
  | empty | assertion _ => some false
  | literal chars => some !chars.isEmpty
  | oneOf set => if set.isEmpty then none else some true
  | group _ body => body.hasWidth?
  | repetition body least _ => body.hasWidth?.map fun wide => wide && least != 0
  | sequence parts => someHasWidth? parts
  | choice alternatives => allHaveWidth? alternatives

def someHasWidth? : List Expr → Option Bool
  | [] => some false
  | e :: rest => do return (← e.hasWidth?) || (← someHasWidth? rest)

def allHaveWidth? : List Expr → Option Bool
  | [] => some true
  | e :: rest => do return (← e.hasWidth?) && (← allHaveWidth? rest)

end

mutual

def asserts (kind : Assertion → Bool) : Expr → Bool
  | empty | literal _ | oneOf _ => false
  | assertion what => kind what
  | group _ body => body.asserts kind
  | repetition body _ _ => body.asserts kind
  | sequence parts => anyAsserts kind parts
  | choice alternatives => anyAsserts kind alternatives

def anyAsserts (kind : Assertion → Bool) : List Expr → Bool
  | [] => false
  | e :: rest => e.asserts kind || anyAsserts kind rest

end

def parts : Expr → List Expr
  | empty => []
  | sequence parts => parts
  | e => [e]

def alternatives : Expr → List Expr
  | choice alternatives => alternatives
  | e => [e]

def ofSet (set : CharSet) : Expr :=
  match set.only? with
  | some c => literal [c]
  | none => oneOf set

/-- Parts of a sequence with adjacent literals made into one. -/
def joinLiterals : List Expr → List Expr
  | [] => []
  | literal chars :: rest =>
      match joinLiterals rest with
      | literal more :: rest => literal (chars ++ more) :: rest
      | rest => literal chars :: rest
  | e :: rest => e :: joinLiterals rest

def sequenceOf (exprs : List Expr) : Expr :=
  match joinLiterals (exprs.flatMap Expr.parts) with
  | [] => empty
  | [only] => only
  | parts => sequence parts

def char? : Expr → Option Char
  | literal [c] => some c
  | _ => none

def set? : Expr → Option CharSet
  | oneOf set => some set
  | _ => none

/-- A choice that is one set when all its alternatives are characters, or all sets. -/
def plainChoiceOf (exprs : List Expr) : Expr :=
  match exprs.flatMap Expr.alternatives with
  | [only] => only
  | alternatives =>
      match alternatives.mapM char?, alternatives.mapM set? with
      | some chars, _ => ofSet (.unionAll (chars.map CharSet.single))
      | none, some sets => ofSet (.unionAll sets)
      | none, none => choice alternatives

def sharedLength : List Expr → List Expr → Nat
  | e :: rest, other :: others => if e.isLike other then sharedLength rest others + 1 else 0
  | _, _ => 0

/-- The number of parts that all the alternatives begin with; zero when one of
them is not a sequence. -/
def prefixLength : List Expr → Nat
  | sequence first :: rest =>
      rest.foldl (fun length e =>
        match e with
        | sequence parts => sharedLength (first.take length) parts
        | _ => 0) first.length
  | _ => 0

def choiceOf (exprs : List Expr) : Expr :=
  match plainChoiceOf exprs with
  | choice alternatives =>
      let length := prefixLength alternatives
      let first := ((alternatives.head?).map Expr.parts).getD []
      if length = 0 then choice alternatives
      else
        sequenceOf (first.take length ++
          [plainChoiceOf (alternatives.map fun e => sequenceOf (e.parts.drop length))])
  | e => e

/-- A repetition.  More than one time nothing is nothing. -/
def repetitionOf (body : Expr) (least : Nat) (most : Option Nat) : Expr :=
  let (least, most) :=
    if body.hasNoWidth then (min least 1, some (min (most.getD 1) 1)) else (least, most)
  if least = 0 && most == some 0 then empty
  else if least = 1 && most == some 1 then body
  else repetition body least most

end Expr

end TagAudit.Pattern
