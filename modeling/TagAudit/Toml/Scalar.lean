import TagAudit.Text.Digits
import TagAudit.Toml.Table

/-! Numbers, booleans, dates and times in a TOML document. -/

namespace TagAudit.Toml

open Text

namespace Scalar

def ungroup? (cs : List Char) : Option (List Char) :=
  let groups := splitOn '_' cs
  if groups.any List.isEmpty then none else some groups.flatten

def natural? (base : Nat) (cs : List Char) : Option Nat :=
  (ungroup? cs).bind (digits? base)

def splitSign (cs : List Char) : Bool × List Char :=
  match cs with
  | '-' :: rest => (true, rest)
  | '+' :: rest => (false, rest)
  | _ => (false, cs)

/-- Whether digits begin with a zero that is not all of them. -/
def hasLeadingZero (cs : List Char) : Bool :=
  match cs with
  | '0' :: _ :: _ => true
  | _ => false

def decimal? (cs : List Char) : Option Nat :=
  if hasLeadingZero cs then none else natural? 10 cs

def integer? (cs : List Char) : Option Int :=
  match cs with
  | '0' :: 'x' :: rest => (natural? 16 rest).map Int.ofNat
  | '0' :: 'o' :: rest => (natural? 8 rest).map Int.ofNat
  | '0' :: 'b' :: rest => (natural? 2 rest).map Int.ofNat
  | _ =>
      let (isNegative, digits) := splitSign cs
      (decimal? digits).map fun n => if isNegative then -(n : Int) else n

/-- Whether an integer can be held in 128 bits, with or without sign. -/
def fits (n : Int) : Bool :=
  Int.negOfNat (bitLimit 127) ≤ n && n < Int.ofNat (bitLimit 128)

def splitExponent (cs : List Char) : List Char × Option (List Char) :=
  let mantissa := cs.takeWhile fun c => c ≠ 'e' && c ≠ 'E'
  match cs.drop mantissa.length with
  | [] => (mantissa, none)
  | _ :: exponent => (mantissa, some exponent)

/-- Whether a text writes a finite float: a point, an exponent or both after digits. -/
def isFiniteNumber (cs : List Char) : Bool :=
  let (mantissa, exponent?) := splitExponent (splitSign cs).2
  let parts? : Option (Nat × Nat) :=
    match splitAt? '.' mantissa with
    | none => if exponent?.isNone then none else (decimal? mantissa).map fun n => (n, 0)
    | some (whole, fraction) => do
        let _ ← decimal? whole
        let fraction ← ungroup? fraction
        let digits ← natural? 10 (whole ++ fraction)
        if (digits? 10 fraction).isSome then some (digits, fraction.length) else none
  let exponent? : Option Int :=
    match exponent? with
    | none => some 0
    | some exponent =>
        let (isNegative, digits) := splitSign exponent
        (natural? 10 digits).map fun n => if isNegative then -(n : Int) else n
  match parts?, exponent? with
  | some (digits, places), some exponent => isFiniteFloat digits (exponent - places)
  | _, _ => false

def isFloat (cs : List Char) : Bool :=
  let unsigned := (splitSign cs).2
  unsigned = ['i', 'n', 'f'] || unsigned = ['n', 'a', 'n'] || isFiniteNumber cs

/-! Dates and times. -/

def fixed? (count : Nat) (cs : List Char) : Option (Nat × List Char) :=
  if cs.length < count then none
  else (digits? 10 (cs.take count)).map fun n => (n, cs.drop count)

def isLeapYear (year : Nat) : Bool :=
  (year % 4 = 0 && year % 100 ≠ 0) || year % 400 = 0

def daysIn (year month : Nat) : Nat :=
  if month = 2 then if isLeapYear year then 29 else 28
  else if month = 4 || month = 6 || month = 9 || month = 11 then 30
  else 31

def afterDate? (cs : List Char) : Option (List Char) := do
  let (year, rest) ← fixed? 4 cs
  let (month, rest) ← fixed? 2 (← dropLead? ['-'] rest)
  let (day, rest) ← fixed? 2 (← dropLead? ['-'] rest)
  if 1 ≤ month && month ≤ 12 && 1 ≤ day && day ≤ daysIn year month then some rest else none

def afterSeconds? (cs : List Char) : Option (List Char) :=
  match cs with
  | ':' :: rest => do
      let (second, rest) ← fixed? 2 rest
      if second > 60 then none
      else
        match rest with
        | '.' :: digits =>
            if (digits.takeWhile isAsciiDigit).isEmpty then none
            else some (digits.dropWhile isAsciiDigit)
        | _ => some rest
  | _ => some cs

def afterTime? (cs : List Char) : Option (List Char) := do
  let (hour, rest) ← fixed? 2 cs
  let (minute, rest) ← fixed? 2 (← dropLead? [':'] rest)
  if hour ≤ 23 && minute ≤ 59 then afterSeconds? rest else none

def isOffset (cs : List Char) : Bool :=
  match cs with
  | [] | ['Z'] | ['z'] => true
  | sign :: rest =>
      (sign == '+' || sign == '-') &&
        match fixed? 2 rest with
        | some (hour, ':' :: rest) =>
            match fixed? 2 rest with
            | some (minute, []) => hour ≤ 23 && minute ≤ 59
            | _ => false
        | _ => false

def isMoment (cs : List Char) : Bool :=
  match afterDate? cs with
  | some [] => true
  | some (mark :: rest) =>
      (mark == 'T' || mark == 't' || mark == ' ') && (afterTime? rest).any isOffset
  | none => afterTime? cs == some []

def read (cs : List Char) : Except TomlError Item :=
  if cs = "true".toList then .ok (.bool true)
  else if cs = "false".toList then .ok (.bool false)
  else
    match integer? cs with
    | some n => if fits n then .ok (.integer n) else .error .malformed
    | none =>
        if isFloat cs then .ok .float
        else if isMoment cs then .ok .moment
        else .error .malformed

end Scalar

end TagAudit.Toml
