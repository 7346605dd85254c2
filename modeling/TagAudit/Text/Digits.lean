import TagAudit.Text.Basic

/-! Numbers written with digits. -/

namespace TagAudit.Text

def digit? (base : Nat) (c : Char) : Option Nat :=
  let value? :=
    if isAsciiDigit c then some (c.toNat - '0'.toNat)
    else if 'a' ≤ c && c ≤ 'f' then some (c.toNat - 'a'.toNat + 10)
    else if 'A' ≤ c && c ≤ 'F' then some (c.toNat - 'A'.toNat + 10)
    else none
  value?.filter (· < base)

def digits? (base : Nat) (cs : List Char) : Option Nat :=
  if cs.isEmpty then none
  else cs.foldlM (fun n c => (digit? base c).map (base * n + ·)) 0

/-- The exponent after the mantissa of a number; zero when there is none. -/
def exponent? : List Char → Option Int
  | [] => some 0
  | e :: rest =>
      if e == 'e' || e == 'E' then
        match rest with
        | '-' :: digits => (digits? 10 digits).map fun n => -(n : Int)
        | '+' :: digits => (digits? 10 digits).map Int.ofNat
        | digits => (digits? 10 digits).map Int.ofNat
      else none

/-- A number in decimal with at most one point, and perhaps an exponent: its digits
and the power of ten that they are multiplied by. -/
def scientific? (cs : List Char) : Option (Nat × Int) := do
  let whole := cs.takeWhile isAsciiDigit
  let rest := cs.dropWhile isAsciiDigit
  let (fraction, rest) := match rest with
    | '.' :: rest => (rest.takeWhile isAsciiDigit, rest.dropWhile isAsciiDigit)
    | _ => ([], rest)
  let digits ← digits? 10 (whole ++ fraction)
  let exponent ← exponent? rest
  return (digits, exponent - fraction.length)

def bitLimit (bits : Nat) : Nat := Nat.pow 2 bits

/-- The least decimal exponent at which every number is too large for a float. -/
def floatExponentLimit : Nat := 310

/-- Whether `digits · 10 ^ exponent` rounds to a finite float of 64 bits. -/
def isFiniteFloat (digits : Nat) (exponent : Int) : Bool :=
  let length := (Nat.toDigits 10 digits).length
  if digits = 0 || exponent + length < 300 then true
  else if exponent + length > floatExponentLimit then false
  else
    let bound := (bitLimit 54 - 1) * bitLimit 970
    if exponent ≥ 0 then digits * Nat.pow 10 exponent.toNat < bound
    else digits < bound * Nat.pow 10 (-exponent).toNat

end TagAudit.Text
