import Std.Data.TreeMap
import TagAudit.Marker.Token

/-! Where the closing tokens of each name stand among the tokens of a text.  The places of a
name ascend, so the first of them behind an opening token is found by halving. -/

namespace TagAudit

def Token.name (token : Token) : String :=
  String.ofList token.marker.name

/-- Looks for the first of some ascending places that is not below `bound`, between the
`first` and the `last` of them; every step halves what is left. -/
def countBelowBetween (bound : Nat) (places : Array Nat) : Nat → Nat → Nat → Nat
  | 0, first, _ => first
  | steps + 1, first, last =>
      if first < last then
        let middle := first + (last - first) / 2
        if places.getD middle 0 < bound then
          countBelowBetween bound places steps (middle + 1) last
        else countBelowBetween bound places steps first middle
      else first

/-- How many of some ascending places are below `bound`. -/
def countBelow (bound : Nat) (places : Array Nat) : Nat :=
  countBelowBetween bound places (Nat.log2 places.size + 1) 0 places.size

structure Closings where
  byName : Std.TreeMap String (Array Nat)

namespace Closings

def places (closings : Closings) (name : String) : Array Nat :=
  closings.byName.getD name #[]

def add (closings : Closings) (name : String) (place : Nat) : Closings :=
  ⟨closings.byName.alter name fun known => some ((known.getD #[]).push place)⟩

/-- Adds the closing tokens of a row of which the first token stands at `place`. -/
def addFrom (place : Nat) : Closings → List Token → Closings
  | closings, [] => closings
  | closings, token :: later =>
      addFrom (place + 1)
        (if token.marker.closing then closings.add token.name place else closings) later

def ofTokens (tokens : List Token) : Closings :=
  addFrom 0 ⟨∅⟩ tokens

def next? (closings : Closings) (name : String) (place : Nat) : Option Nat :=
  let places := closings.places name
  places[countBelow place places]?

end Closings

end TagAudit
