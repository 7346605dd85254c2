import TagAudit.Text.Basic

/-! Wildcard patterns: `?` is one character, `*` any characters, `[ab0-9]` and
`[!ab]` one character of a set, and `**` any directories. -/

namespace TagAudit

structure WildcardRange where
  first : Char
  last : Char
deriving DecidableEq, Repr

inductive WildcardToken where
  | literal (c : Char)
  | anyChar
  | anyText
  /-- Any directories, with the slash after each. -/
  | anyDirectories
  | within (ranges : List WildcardRange)
  | except (ranges : List WildcardRange)
deriving DecidableEq, Repr

structure Wildcard where
  tokens : List WildcardToken
deriving DecidableEq, Repr

inductive WildcardFault where
  | tooManyStars
  | partialComponent
  | badRange
deriving DecidableEq, Repr

structure WildcardError where
  position : Nat
  fault : WildcardFault
deriving DecidableEq, Repr

namespace WildcardFault

def message : WildcardFault → String
  | tooManyStars => "wildcards are either regular `*` or recursive `**`"
  | partialComponent => "recursive wildcards must form a single path component"
  | badRange => "invalid range pattern"

end WildcardFault

def WildcardError.message (e : WildcardError) : String :=
  s!"Pattern syntax error near position {e.position}: {e.fault.message}"

namespace Wildcard

def readRanges : List Char → List WildcardRange
  | first :: '-' :: last :: rest => ⟨first, last⟩ :: readRanges rest
  | c :: rest => ⟨c, c⟩ :: readRanges rest
  | [] => []

/-- The set between brackets and what follows it; the first character of a set may be
a closing bracket. -/
def readSet? (cs : List Char) : Option (List WildcardRange × List Char) :=
  match cs with
  | [] => none
  | c :: rest =>
      (Text.splitAt? ']' rest).map fun (inner, after) => (readRanges (c :: inner), after)

def readBracket? : List Char → Option (WildcardToken × List Char)
  | '!' :: rest => (readSet? rest).map fun (ranges, after) => (.except ranges, after)
  | cs => (readSet? cs).map fun (ranges, after) => (.within ranges, after)

/-- Whether `**` between `before` and `rest` is a whole component of a path.  `before` is
the last character before it. -/
def starsFault (before : Option Char) (position : Nat) (rest : List Char) :
    Option WildcardError :=
  if before.any (· ≠ '/') then some ⟨position - 1, .partialComponent⟩
  else
    match rest with
    | [] => none
    | '/' :: _ => none
    | _ => some ⟨position + 2, .partialComponent⟩

/-- Adds a token; of `**` components in a row one is enough after the first two
tokens. -/
def pushDirectories (tokens : List WildcardToken) : List WildcardToken :=
  if tokens.length > 1 && tokens.head? == some .anyDirectories then tokens
  else .anyDirectories :: tokens

/-- Reads the tokens of a pattern.  `tokens` holds those already read, last first;
`before` is the character before `position`. -/
def readTokens : Nat → List WildcardToken → Option Char → Nat → List Char →
    Except WildcardError (List WildcardToken)
  | 0, tokens, _, _, _ => .ok tokens.reverse
  | _ + 1, tokens, _, _, [] => .ok tokens.reverse
  | fuel + 1, tokens, before, position, c :: rest =>
      match c with
      | '?' => readTokens fuel (.anyChar :: tokens) (some c) (position + 1) rest
      | '*' =>
          let stars := rest.takeWhile (· == '*')
          let after := rest.dropWhile (· == '*')
          match stars.length with
          | 0 => readTokens fuel (.anyText :: tokens) (some c) (position + 1) rest
          | 1 =>
              match starsFault before position after with
              | some e => .error e
              | none =>
                  readTokens fuel (pushDirectories tokens) (some '/') (position + 3)
                    (after.drop 1)
          | _ => .error ⟨position + 2, .tooManyStars⟩
      | '[' =>
          match readBracket? rest with
          | some (token, after) =>
              let length := rest.length - after.length + 1
              readTokens fuel (token :: tokens) (some ']') (position + length) after
          | none => .error ⟨position, .badRange⟩
      | c => readTokens fuel (.literal c :: tokens) (some c) (position + 1) rest

def read (text : List Char) : Except WildcardError Wildcard :=
  (readTokens text.length [] none 0 text).map Wildcard.mk

def inRanges (ranges : List WildcardRange) (c : Char) : Bool :=
  ranges.any fun range => range.first ≤ c && c ≤ range.last

inductive Outcome where
  | matched
  | mismatch
  /-- The text ended before the tokens did, so that no shorter end of it matches. -/
  | exhausted
deriving DecidableEq, Repr

def Outcome.orElse (outcome : Outcome) (other : Unit → Outcome) : Outcome :=
  match outcome with
  | .mismatch => other ()
  | outcome => outcome

/-- Matches the rest of the tokens with the ends of a text, the longest first. -/
def afterText (matchRest : List Char → Outcome) : List Char → Outcome
  | [] => matchRest []
  | c :: rest => (matchRest (c :: rest)).orElse fun () => afterText matchRest rest

/-- Matches the rest of the tokens with what remains of a text after some
directories, or with nothing. -/
def afterDirectories (matchRest : List Char → Outcome) : List Char → Outcome
  | [] => matchRest []
  | c :: rest =>
      if c = '/' then (matchRest rest).orElse fun () => afterDirectories matchRest rest
      else afterDirectories matchRest rest

def matchTokens : List WildcardToken → List Char → Outcome
  | [], text => if text.isEmpty then .matched else .mismatch
  | .anyText :: tokens, text => afterText (matchTokens tokens) text
  | .anyDirectories :: tokens, text =>
      (matchTokens tokens text).orElse fun () => afterDirectories (matchTokens tokens) text
  | token :: tokens, c :: rest =>
      let fits := match token with
        | .literal d => c == d
        | .within ranges => inRanges ranges c
        | .except ranges => !inRanges ranges c
        | _ => true
      if fits then matchTokens tokens rest else .mismatch
  | _ :: _, [] => .exhausted

/-- Whether the pattern matches the whole of a text.  A slash is matched like any
other character. -/
def accepts (pattern : Wildcard) (text : List Char) : Bool :=
  matchTokens pattern.tokens text == .matched

def isRecursive (pattern : Wildcard) : Bool :=
  pattern.tokens.contains .anyDirectories

def literal? (pattern : Wildcard) : Option (List Char) :=
  pattern.tokens.mapM fun
    | .literal c => some c
    | _ => none

def isSpecial (c : Char) : Bool :=
  c == '?' || c == '*' || c == '[' || c == ']'

/-- The pattern that matches exactly `text`. -/
def escape (text : List Char) : List Char :=
  text.flatMap fun c => if isSpecial c then ['[', c, ']'] else [c]

end Wildcard

end TagAudit
