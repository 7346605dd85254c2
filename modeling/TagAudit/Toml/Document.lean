import TagAudit.Toml.Quoted
import TagAudit.Toml.Scalar

/-! Reading a TOML document line by line into its top table. -/

namespace TagAudit.Toml

open Text Quoted

def afterComment (cs : List Char) : Except TomlError (List Char) :=
  match cs with
  | '#' :: rest =>
      let text := rest.takeWhile (· ≠ '\n')
      let after := rest.dropWhile (· ≠ '\n')
      let text := if after.isEmpty then text else chomp (text ++ ['\n'])
      if text.any isControl then .error .malformed else .ok after
  | _ => .ok cs

def afterVoid : Nat → List Char → Except TomlError (List Char)
  | 0, cs => .ok cs
  | fuel + 1, cs =>
      let cs := cs.dropWhile isGap
      match afterLineEnd? cs, cs with
      | some rest, _ => afterVoid fuel rest
      | none, '#' :: _ => do afterVoid fuel (← afterComment cs)
      | none, _ => .ok cs

def skipVoid (cs : List Char) : Except TomlError (List Char) :=
  afterVoid (cs.length + 1) cs

def afterLine (cs : List Char) : Except TomlError (List Char) := do
  let rest ← afterComment (cs.dropWhile isGap)
  match rest, afterLineEnd? rest with
  | [], _ => return []
  | _, some rest => return rest
  | _, none => .error .malformed

/-! Keys. -/

def isKeyChar (c : Char) : Bool :=
  isAsciiLetter c || isAsciiDigit c || c == '_' || c == '-'

def readKeyPart (cs : List Char) : Except TomlError (String × List Char) :=
  let word := cs.takeWhile isKeyChar
  if word.isEmpty then (readShort cs).map fun (text, rest) => (String.ofList text, rest)
  else .ok (String.ofList word, cs.drop word.length)

def readKeyFrom : Nat → List Char → Except TomlError (List String × List Char)
  | 0, _ => .error .malformed
  | fuel + 1, cs => do
      let (part, rest) ← readKeyPart (cs.dropWhile isGap)
      match rest.dropWhile isGap with
      | '.' :: rest =>
          let (parts, rest) ← readKeyFrom fuel rest
          return (part :: parts, rest)
      | rest => return ([part], rest)

/-- How many parts a key may have, and how deeply arrays and tables may be nested in
a value. -/
def depthLimit : Nat := 80

def readKey (cs : List Char) : Except TomlError (List String × List Char) := do
  let (parts, rest) ← readKeyFrom (cs.length + 1) cs
  if parts.length > depthLimit then .error .tooDeep else return (parts, rest)

def afterEquals (cs : List Char) : Except TomlError (List Char) :=
  match cs with
  | '=' :: rest => .ok (rest.dropWhile isGap)
  | _ => .error .malformed

def afterInlineEquals (cs : List Char) : Except TomlError (List Char) := do
  skipVoid (← afterEquals (← skipVoid cs))

/-! Values. -/

def isWordChar (c : Char) : Bool :=
  isKeyChar c || c == '+' || c == '.' || c == ':'

/-- Reads a value without quotes.  A date and a time may be parted by a blank. -/
def readWord (cs : List Char) : Except TomlError (Item × List Char) := do
  let word := cs.takeWhile isWordChar
  let rest := cs.drop word.length
  match Scalar.afterDate? word, rest with
  | some [], ' ' :: c :: more =>
      if isAsciiDigit c then
        let time := (c :: more).takeWhile isWordChar
        return (← Scalar.read (word ++ ' ' :: time), (c :: more).drop time.length)
      else return (← Scalar.read word, rest)
  | _, _ => return (← Scalar.read word, rest)

mutual

/-- Reads a value in which arrays and tables are nested at most `depth` deep. -/
def readValue : Nat → Nat → List Char → Except TomlError (Item × List Char)
  | 0, _, _ => .error .malformed
  | fuel + 1, depth, cs =>
      match cs with
      | '"' :: _ | '\'' :: _ =>
          (Quoted.read cs).map fun (text, rest) => (.text (String.ofList text), rest)
      | '[' :: rest => do
          if depth = 0 then .error .tooDeep
          let (items, rest) ← readItems fuel (depth - 1) (← skipVoid rest)
          return (.array items, rest)
      | '\x7b' :: rest => do
          if depth = 0 then .error .tooDeep
          let (entries, rest) ← readEntries fuel (depth - 1) [] (← skipVoid rest)
          return (.table .inline entries, rest)
      | _ => readWord cs

def readItems : Nat → Nat → List Char → Except TomlError (List Item × List Char)
  | 0, _, _ => .error .malformed
  | fuel + 1, depth, cs =>
      match cs with
      | ']' :: rest => .ok ([], rest)
      | _ => do
          let (item, rest) ← readValue fuel depth cs
          match ← skipVoid rest with
          | ',' :: rest =>
              let (items, rest) ← readItems fuel depth (← skipVoid rest)
              return (item :: items, rest)
          | ']' :: rest => return ([item], rest)
          | _ => .error .malformed

def readEntries : Nat → Nat → Entries → List Char → Except TomlError (Entries × List Char)
  | 0, _, _, _ => .error .malformed
  | fuel + 1, depth, entries, cs =>
      match cs with
      | '\x7d' :: rest => .ok (entries, rest)
      | _ => do
          let (key, rest) ← readKey cs
          let (item, rest) ← readValue fuel depth (← afterInlineEquals rest)
          let entries ← Entries.insertDotted item true key entries
          match ← skipVoid rest with
          | ',' :: rest => readEntries fuel depth entries (← skipVoid rest)
          | '\x7d' :: rest => return (entries, rest)
          | _ => .error .malformed

end

/-! Lines. -/

/-- The top table so far, and the keys of the table whose lines are being read. -/
structure State where
  top : Entries
  path : List String

def State.enter (state : State) (key : List String)
    (begin_ : String → Entries → Except TomlError Entries) : Except TomlError State :=
  match key.getLast? with
  | none => .error .malformed
  | some last => do return ⟨← Entries.changeAt (begin_ last) key.dropLast state.top, key⟩

def readLine (state : State) (cs : List Char) : Except TomlError (State × List Char) :=
  match cs with
  | '[' :: '[' :: rest => do
      let (key, rest) ← readKey rest
      match rest with
      | ']' :: ']' :: rest => return (← state.enter key Entries.openElement, rest)
      | _ => .error .malformed
  | '[' :: rest => do
      let (key, rest) ← readKey rest
      match rest with
      | ']' :: rest => return (← state.enter key Entries.openTable, rest)
      | _ => .error .malformed
  | _ => do
      let (key, rest) ← readKey cs
      let (item, rest) ← readValue (2 * cs.length + 2) depthLimit (← afterEquals rest)
      let top ← Entries.changeAt (Entries.insertDotted item true key) state.path state.top
      return ({ state with top := top }, rest)

def readRest : Nat → State → List Char → Except TomlError Entries
  | 0, state, _ => .ok state.top
  | fuel + 1, state, cs => do
      match ← skipVoid cs with
      | [] => return state.top
      | cs =>
          let (state, rest) ← readLine state cs
          readRest fuel state (← afterLine rest)

def read (text : String) : Except TomlError Entries :=
  let cs := match text.toList with
    | '\ufeff' :: rest => rest
    | cs => cs
  readRest (cs.length + 1) ⟨[], []⟩ cs

end TagAudit.Toml
