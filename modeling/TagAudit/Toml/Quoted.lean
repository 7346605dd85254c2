import TagAudit.Text.Digits
import TagAudit.Toml.Table

/-! Strings of a TOML document: between double quotes with escapes, or between single
quotes as they stand; and between three quotes over several lines. -/

namespace TagAudit.Toml

open Text

namespace Quoted

def isControl (c : Char) : Bool :=
  (c.toNat < 0x20 && c ≠ '\t') || c.toNat == 0x7F

def readCode? (count : Nat) (cs : List Char) : Option (Char × List Char) :=
  if cs.length < count then none
  else
    match digits? 16 (cs.take count) with
    | some n => if Nat.isValidChar n then some (Char.ofNat n, cs.drop count) else none
    | none => none

def readEscape? (cs : List Char) : Option (Char × List Char) :=
  match cs with
  | 'b' :: rest => some ('\x08', rest)
  | 't' :: rest => some ('\t', rest)
  | 'n' :: rest => some ('\n', rest)
  | 'f' :: rest => some ('\x0c', rest)
  | 'r' :: rest => some ('\r', rest)
  | 'e' :: rest => some ('\x1b', rest)
  | '"' :: rest => some ('"', rest)
  | '\\' :: rest => some ('\\', rest)
  | 'x' :: rest => readCode? 2 rest
  | 'u' :: rest => readCode? 4 rest
  | 'U' :: rest => readCode? 8 rest
  | _ => none

def afterLineEnd? (cs : List Char) : Option (List Char) :=
  match cs with
  | '\n' :: rest => some rest
  | '\r' :: '\n' :: rest => some rest
  | _ => none

def isGap (c : Char) : Bool :=
  c == ' ' || c == '\t'

def dropGapLines : List Char → List Char
  | '\r' :: '\n' :: rest => dropGapLines rest
  | c :: rest => if isGap c || c = '\n' then dropGapLines rest else c :: rest
  | [] => []

def afterFold? (cs : List Char) : Option (List Char) :=
  (afterLineEnd? (cs.dropWhile isGap)).map dropGapLines

/-- The quotes that end a string over several lines: up to two more belong to it. -/
def close? (quote : Char) (cs : List Char) : Option (List Char × List Char) :=
  let count := min (cs.takeWhile (· == quote)).length 5
  if count < 3 then none else some (List.replicate (count - 3) quote, cs.drop count)

/-- Reads a string between double quotes; `seen` is what was read of it, last first. -/
def readEscaped : Nat → List Char → List Char → Except TomlError (List Char × List Char)
  | 0, _, _ | _ + 1, _, [] => .error .malformed
  | fuel + 1, seen, c :: rest =>
      if c = '"' then .ok (seen.reverse, rest)
      else if c = '\\' then
        match readEscape? rest with
        | some (d, rest) => readEscaped fuel (d :: seen) rest
        | none => .error .malformed
      else if isControl c then .error .malformed
      else readEscaped fuel (c :: seen) rest

def readEscapedLines : Nat → List Char → List Char → Except TomlError (List Char × List Char)
  | 0, _, _ | _ + 1, _, [] => .error .malformed
  | fuel + 1, seen, c :: rest =>
      match close? '"' (c :: rest) with
      | some (quotes, rest) => .ok (seen.reverse ++ quotes, rest)
      | none =>
          if c = '\\' then
            match afterFold? rest, readEscape? rest with
            | some rest, _ => readEscapedLines fuel seen rest
            | none, some (d, rest) => readEscapedLines fuel (d :: seen) rest
            | none, none => .error .malformed
          else if (afterLineEnd? (c :: rest)).isNone && isControl c then .error .malformed
          else readEscapedLines fuel (c :: seen) rest

def readLines : Nat → List Char → List Char → Except TomlError (List Char × List Char)
  | 0, _, _ | _ + 1, _, [] => .error .malformed
  | fuel + 1, seen, c :: rest =>
      match close? '\'' (c :: rest) with
      | some (quotes, rest) => .ok (seen.reverse ++ quotes, rest)
      | none =>
          if (afterLineEnd? (c :: rest)).isNone && isControl c then .error .malformed
          else readLines fuel (c :: seen) rest

def readPlain (cs : List Char) : Except TomlError (List Char × List Char) :=
  match splitAt? '\'' cs with
  | some (text, rest) => if text.any isControl then .error .malformed else .ok (text, rest)
  | none => .error .malformed

def dropLineEnd (cs : List Char) : List Char :=
  (afterLineEnd? cs).getD cs

def readShort (cs : List Char) : Except TomlError (List Char × List Char) :=
  match cs with
  | '"' :: rest => readEscaped (rest.length + 1) [] rest
  | '\'' :: rest => readPlain rest
  | _ => .error .malformed

def read (cs : List Char) : Except TomlError (List Char × List Char) :=
  match cs with
  | '"' :: '"' :: '"' :: rest => readEscapedLines (rest.length + 1) [] (dropLineEnd rest)
  | '\'' :: '\'' :: '\'' :: rest => readLines (rest.length + 1) [] (dropLineEnd rest)
  | _ => readShort cs

end Quoted

end TagAudit.Toml
