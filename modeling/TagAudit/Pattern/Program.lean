import TagAudit.Pattern.Expr

/-! Programs that look for a match of a pattern.  All the steps that a match may
have reached are followed at once, so that the time for a text is at most its
length times the length of the program. -/

namespace TagAudit.Pattern

open Unicode

/-- A step of a program.  The other steps are named by their positions. -/
inductive Step where
  | letter (c : Char) (next : Nat)
  | oneOf (set : CharSet) (next : Nat)
  | assertion (what : Assertion) (next : Nat)
  /-- Goes on at each of the steps. -/
  | fork (nexts : List Nat)

namespace Step

def links : Step → List Nat
  | letter _ _ | oneOf _ _ => []
  | assertion _ next => [next]
  | fork nexts => nexts

def read? (c : Char) : Step → Option Nat
  | letter d next => if d = c then some next else none
  | oneOf set next => if set.contains c then some next else none
  | assertion _ _ | fork _ => none

end Step

namespace Expr

mutual

def width : Expr → Nat
  | empty | oneOf _ | assertion _ => 1
  | literal chars => chars.length + 1
  | group _ body => body.width
  | repetition body least most =>
      match most with
      | none => body.width * least + 1 + body.width
      | some most => body.width * least + (1 + body.width) * (most - least) + 1
  | sequence parts => widthOfParts parts
  | choice alternatives => 1 + widthOfAlternatives alternatives

def widthOfParts : List Expr → Nat
  | [] => 1
  | e :: rest => e.width + widthOfParts rest

def widthOfAlternatives : List Expr → Nat
  | [] => 0
  | e :: rest => e.width + widthOfAlternatives rest

end

def starts (position : Nat) : List Expr → List Nat
  | [] => []
  | e :: rest => position :: starts (position + e.width) rest

/-- Places `emit` `count` times, each leading to the next. -/
def emitTimes (emit : Nat → Array Step → Array Step) (width : Nat) :
    Nat → Array Step → Array Step
  | 0, steps => steps
  | count + 1, steps => emitTimes emit width count (emit (steps.size + width) steps)

def emitLetters (chars : List Char) (steps : Array Step) : Array Step :=
  chars.foldl (fun steps c => steps.push (.letter c (steps.size + 1))) steps

mutual

/-- Adds the steps of the pattern.  They begin at the end of `steps`, and a match
leads to the step `next`. -/
def emit : Expr → Nat → Array Step → Array Step
  | empty, next, steps => steps.push (.fork [next])
  | literal chars, next, steps => (emitLetters chars steps).push (.fork [next])
  | oneOf set, next, steps => steps.push (.oneOf set next)
  | assertion what, next, steps => steps.push (.assertion what next)
  | group _ body, next, steps => body.emit next steps
  | repetition body least most, next, steps =>
      let steps := emitTimes (fun after steps => body.emit after steps) body.width least steps
      match most with
      | none => body.emit steps.size (steps.push (.fork [steps.size + 1, next]))
      | some most =>
          let option (after : Nat) (steps : Array Step) :=
            body.emit after (steps.push (.fork [steps.size + 1, next]))
          (emitTimes option (1 + body.width) (most - least) steps).push (.fork [next])
  | sequence parts, next, steps => emitParts parts next steps
  | choice alternatives, next, steps =>
      emitAlternatives alternatives next
        (steps.push (.fork (starts (steps.size + 1) alternatives)))

def emitParts : List Expr → Nat → Array Step → Array Step
  | [], next, steps => steps.push (.fork [next])
  | e :: rest, next, steps => emitParts rest next (e.emit (steps.size + e.width) steps)

def emitAlternatives : List Expr → Nat → Array Step → Array Step
  | [], _, steps => steps
  | e :: rest, next, steps => emitAlternatives rest next (e.emit next steps)

end

end Expr

/-- Steps from the first one on.  A match is found at the end of the steps. -/
structure Program where
  steps : Array Step
  /-- How many times a step leads to another without reading a character. -/
  links : Nat

structure Reach where
  /-- For each step one more than the last place where it was reached. -/
  marks : Array Nat
  /-- The steps that read the character after the place. -/
  waiting : List Nat
  found : Bool

namespace Program

def ofExpr (e : Expr) : Program :=
  let steps := e.emit e.width #[]
  ⟨steps, steps.foldl (fun links step => links + step.links.length) 0⟩

/-- Follows the steps in `pending` up to those that read a character.  Each link
is followed once at most, so that `fuel` need not exceed the number of links and of
pending steps. -/
def follow (program : Program) (place : Nat) (before after : Option Char) :
    Nat → List Nat → Reach → Reach
  | 0, _, reach | _, [], reach => reach
  | fuel + 1, position :: pending, reach =>
      if reach.marks[position]? == some (place + 1) then
        program.follow place before after fuel pending reach
      else
        match program.steps[position]? with
        | none => { reach with found := true }
        | some step =>
            let marks := reach.marks.setIfInBounds position (place + 1)
            match step with
            | .letter _ _ | .oneOf _ _ =>
                program.follow place before after fuel pending
                  ⟨marks, position :: reach.waiting, reach.found⟩
            | .assertion what next =>
                let pending := if what.holds before after then next :: pending else pending
                program.follow place before after fuel pending ⟨marks, reach.waiting, reach.found⟩
            | .fork nexts =>
                program.follow place before after fuel (nexts ++ pending)
                  ⟨marks, reach.waiting, reach.found⟩

/-- Whether a match is found that begins at the place or after it, or with one of
the steps `entered`. -/
def search (program : Program) (place : Nat) (before : Option Char) (entered : List Nat)
    (marks : Array Nat) : List Char → Bool
  | [] => (reachFrom none).found
  | c :: rest =>
      let reach := reachFrom (some c)
      reach.found ||
        let read (position : Nat) := program.steps[position]?.bind (Step.read? c)
        program.search (place + 1) (some c) (reach.waiting.filterMap read) reach.marks rest
where
  reachFrom (after : Option Char) : Reach :=
    let pending := 0 :: entered
    program.follow place before after (program.links + pending.length) pending ⟨marks, [], false⟩

def matchesIn (program : Program) (text : List Char) : Bool :=
  program.search 0 none [] (Array.replicate program.steps.size 0) text

end Program

end TagAudit.Pattern
