import TagAudit.Yaml.Scalar

/-! The tokens of a YAML text.  Indentation opens and closes block collections,
and a colon turns what stands before it on its line into a key. -/

namespace TagAudit.Yaml

inductive ScalarStyle where
  | plain
  /-- A block that keeps its line breaks. -/
  | literal
  | other
deriving DecidableEq, Repr

inductive Token where
  | versionDirective (major minor : Nat)
  | tagDirective (handle lead : List Char)
  | documentStart
  | documentEnd
  | blockSequenceStart
  | blockMappingStart
  | blockEnd
  | flowSequenceStart
  | flowSequenceEnd
  | flowMappingStart
  | flowMappingEnd
  | blockEntry
  | flowEntry
  | key
  | value
  | alias (name : List Char)
  | anchor (name : List Char)
  | tag (handle suffix : List Char)
  | scalar (style : ScalarStyle) (text : List Char)
  | streamEnd
deriving DecidableEq, Repr

structure KeyCandidate where
  /-- The place of the token among all tokens. -/
  place : Nat
  index : Nat
  line : Nat
  column : Nat
  /-- Whether the line cannot be anything but a key. -/
  required : Bool
deriving Repr

structure Tokenizer where
  cursor : Cursor
  tokens : Array Token
  /-- Column of the innermost block collection, or `-1`. -/
  indent : Int
  /-- Columns of the collections around it, innermost first. -/
  outer : List Int
  /-- One entry for the block context and each open flow collection, innermost first. -/
  candidates : List (Option KeyCandidate)
  /-- Whether a key may begin here. -/
  keyAllowed : Bool

namespace Tokenizer

abbrev Step := Except YamlError Tokenizer

def start (cs : List Char) : Tokenizer :=
  ⟨⟨cs, 0, 0, 0⟩, #[], -1, [], [none], true⟩

def inFlow (s : Tokenizer) : Bool :=
  s.candidates.length > 1

def push (s : Tokenizer) (token : Token) : Tokenizer :=
  { s with tokens := s.tokens.push token }

/-- Closes the block collections that are indented deeper than `column`. -/
def unroll (s : Tokenizer) (column : Int) : Tokenizer :=
  if s.inFlow then s
  else go s.outer s
where
  go : List Int → Tokenizer → Tokenizer
    | [], s => s
    | indent :: outer, s =>
        if s.indent > column then
          go outer { s.push .blockEnd with indent := indent, outer := outer }
        else s

/-- Opens a block collection at `column` if it is indented deeper than the one
around it; its token goes to `place`. -/
def roll (s : Tokenizer) (column place : Nat) (token : Token) : Tokenizer :=
  if !s.inFlow && s.indent < column then
    { s with
      tokens := s.tokens.insertIdx! place token, indent := column, outer := s.indent :: s.outer }
  else s

/-- Gives up the innermost key candidate, which must not be required. -/
def dropCandidate (s : Tokenizer) : Step :=
  match s.candidates with
  | some candidate :: more =>
      if candidate.required then .error .missingColon
      else .ok { s with candidates := none :: more }
  | _ => .ok s

/-- Notes that what begins here may be a key. -/
def saveCandidate (s : Tokenizer) : Step := do
  if !s.keyAllowed then return s
  let required := !s.inFlow && s.indent == s.cursor.column
  let candidate : KeyCandidate :=
    ⟨s.tokens.size, s.cursor.index, s.cursor.line, s.cursor.column, required⟩
  let s ← s.dropCandidate
  return { s with candidates := some candidate :: s.candidates.drop 1 }

/-- Gives up the candidates on earlier lines and those that are too long for a key. -/
def dropStale (s : Tokenizer) : Step := do
  let isStale (candidate : KeyCandidate) : Bool :=
    candidate.line < s.cursor.line || candidate.index + 1024 < s.cursor.index
  if s.candidates.any fun entry => entry.any fun c => isStale c && c.required then
    .error .missingColon
  else
    return { s with candidates := s.candidates.map fun entry => entry.filter (!isStale ·) }

/-- Moves to the next token over blanks, comments, line breaks, and a byte order
mark at the start of a line.  At most `size` characters are left. -/
def skipToToken (size : Nat) (s : Tokenizer) : Tokenizer :=
  go (size + 1) s
where
  go : Nat → Tokenizer → Tokenizer
    | 0, s => s
    | fuel + 1, s =>
        let tabs := s.inFlow || !s.keyAllowed
        let marked := s.cursor.column == 0 && s.cursor.sees '\ufeff'
        let next := if marked then s.cursor.skip else s.cursor
        let next := next.skipWhile fun c => c == ' ' || (tabs && c == '\t')
        let next := if next.sees '#' then next.skipWhile (!isBreak ·) else next
        if next.seesWhere isBreak then
          go fuel { s with cursor := next.skipBreak, keyAllowed := s.keyAllowed || !s.inFlow }
        else { s with cursor := next }

def punctuate (s : Tokenizer) (token : Token) (keyAllowed : Bool) : Tokenizer :=
  { s.push token with cursor := s.cursor.skip, keyAllowed := keyAllowed }

/-! Directives, anchors and tags. -/

def isUriChar (inBrackets : Bool) (c : Char) : Bool :=
  isNameChar c || ";/?:@&=+$.%!~*'()".toList.contains c ||
    (inBrackets && (c == ',' || c == '[' || c == ']'))

def decodeUri : Nat → List Char → Except YamlError (List Char)
  | 0, _ => .ok []
  | _ + 1, [] => .ok []
  | fuel + 1, '%' :: rest => do
      let (bytes, rest) ← escapedBytes fuel ('%' :: rest)
      match String.fromUTF8? (ByteArray.mk bytes.toArray) with
      | some text => return text.toList ++ (← decodeUri fuel rest)
      | none => .error .badTag
  | fuel + 1, c :: rest => do return c :: (← decodeUri fuel rest)
where
  escapedBytes : Nat → List Char → Except YamlError (List UInt8 × List Char)
    | 0, cs => .ok ([], cs)
    | fuel + 1, '%' :: a :: b :: rest =>
        if Scalar.isHexDigit a && Scalar.isHexDigit b then do
          let (bytes, rest) ← escapedBytes fuel rest
          return (UInt8.ofNat (Scalar.hexNumber [a, b]) :: bytes, rest)
        else .error .badTag
    | _ + 1, '%' :: _ => .error .badTag
    | _ + 1, cs => .ok ([], cs)

def readUri (inBrackets : Bool) (head : List Char) (at_ : Cursor) :
    Except YamlError (List Char × Cursor) := do
  let (raw, next) := at_.takeWhile (isUriChar inBrackets)
  if raw.isEmpty && head.isEmpty then .error .badTag
  return (head.drop 1 ++ (← decodeUri (raw.length + 1) raw), next)

def readHandle (inDirective : Bool) (at_ : Cursor) : Except YamlError (List Char × Cursor) :=
  if !at_.sees '!' then .error .badTag
  else
    let (name, next) := at_.skip.takeWhile isNameChar
    if next.sees '!' then .ok ('!' :: name ++ ['!'], next.skip)
    else if inDirective && !name.isEmpty then .error .badTag
    else .ok ('!' :: name, next)

def readTag (s : Tokenizer) : Step := do
  let at_ := s.cursor
  let (handle, suffix, next) ←
    if at_.rest.take 2 == ['!', '<'] then do
      let (suffix, next) ← readUri true [] at_.skip.skip
      if !next.sees '>' then .error .badTag
      pure ([], suffix, next.skip)
    else do
      let (handle, next) ← readHandle false at_
      if handle.length > 1 && handle.getLast? == some '!' then do
        let (suffix, next) ← readUri false [] next
        pure (handle, suffix, next)
      else do
        let (suffix, next) ← readUri false handle next
        pure (if suffix.isEmpty then ([], ['!'], next) else (['!'], suffix, next))
  if !next.separatedAt 0 && !(s.inFlow && next.sees ',') then .error .badTag
  return { s.push (.tag handle suffix) with cursor := next }

def readAnchor (s : Tokenizer) (isAlias : Bool) : Step := do
  let (name, next) := s.cursor.skip.takeWhile isNameChar
  let ended := next.separatedAt 0 || next.seesWhere fun c => "?:,]\x7d%@`".toList.contains c
  if name.isEmpty || !ended then .error .badAnchor
  return { s.push (if isAlias then .alias name else .anchor name) with cursor := next }

def readVersionNumber (at_ : Cursor) : Except YamlError (Nat × Cursor) :=
  let (digits, next) := at_.takeWhile Text.isAsciiDigit
  if digits.isEmpty || digits.length > 9 then .error .badDirective
  else .ok (digits.foldl (fun n c => 10 * n + (c.toNat - '0'.toNat)) 0, next)

def readDirective (s : Tokenizer) : Step := do
  let (name, next) := s.cursor.skip.takeWhile isNameChar
  if name.isEmpty || !next.separatedAt 0 then .error .badDirective
  let next := next.skipWhile isSpace
  let (token, next) ← match String.ofList name with
    | "YAML" => do
        let (major, next) ← readVersionNumber next
        if !next.sees '.' then .error .badDirective
        let (minor, next) ← readVersionNumber next.skip
        pure (Token.versionDirective major minor, next)
    | "TAG" => do
        let (handle, next) ← readHandle true next
        if !next.seesWhere isSpace then .error .badDirective
        let (lead, next) ← readUri true [] (next.skipWhile isSpace)
        if !next.separatedAt 0 then .error .badDirective
        pure (Token.tagDirective handle lead, next)
    | _ => .error .badDirective
  let next := next.skipLineRest
  if !next.rest.isEmpty && !next.seesWhere isBreak then .error .badDirective
  return { s.push token with cursor := next.skipBreak }

/-! One token at a time. -/

def leaveBlocks (s : Tokenizer) : Step := do
  let s ← (s.unroll (-1)).dropCandidate
  return { s with keyAllowed := false }

def openFlow (s : Tokenizer) (token : Token) : Step := do
  let s ← s.saveCandidate
  let s := s.punctuate token true
  return { s with candidates := none :: s.candidates }

def closeFlow (s : Tokenizer) (token : Token) : Step := do
  let s ← s.dropCandidate
  let s := s.punctuate token false
  return { s with candidates := if s.inFlow then s.candidates.drop 1 else s.candidates }

def readEntry (s : Tokenizer) : Step := do
  if !s.inFlow && !s.keyAllowed then .error .misplacedEntry
  let s := s.roll s.cursor.column s.tokens.size .blockSequenceStart
  let s ← s.dropCandidate
  return s.punctuate .blockEntry true

def readKey (s : Tokenizer) : Step := do
  if !s.inFlow && !s.keyAllowed then .error .misplacedKey
  let s := s.roll s.cursor.column s.tokens.size .blockMappingStart
  let s ← s.dropCandidate
  return s.punctuate .key (!s.inFlow)

def readValue (s : Tokenizer) : Step := do
  match s.candidates with
  | some candidate :: more =>
      let s := { s with tokens := s.tokens.insertIdx! candidate.place .key }
      let s := s.roll candidate.column candidate.place .blockMappingStart
      return { s with candidates := none :: more }.punctuate .value false
  | _ =>
      if !s.inFlow && !s.keyAllowed then .error .misplacedValue
      let s := s.roll s.cursor.column s.tokens.size .blockMappingStart
      return s.punctuate .value (!s.inFlow)

def readBlockScalar (size : Nat) (s : Tokenizer) (literal : Bool) : Step := do
  let s ← s.dropCandidate
  let (text, next) ← Scalar.block size literal s.indent s.cursor
  let style : ScalarStyle := if literal then .literal else .other
  return { s.push (.scalar style text) with cursor := next, keyAllowed := true }

def readQuoted (size : Nat) (s : Tokenizer) (single : Bool) : Step := do
  let s ← s.saveCandidate
  let (text, next) ← Scalar.quoted size single s.cursor
  return { s.push (.scalar .other text) with cursor := next, keyAllowed := false }

def readPlain (size : Nat) (s : Tokenizer) : Step := do
  let s ← s.saveCandidate
  let (text, broken, next) ← Scalar.plain size s.inFlow (s.indent + 1).toNat s.cursor
  return { s.push (.scalar .plain text) with cursor := next, keyAllowed := broken }

def beginsPlain (s : Tokenizer) (c : Char) : Bool :=
  let followed (n : Nat) := !s.cursor.separatedAt n
  !(isSpaceOrBreak c || "-?:,[]\x7b\x7d#&*!|>'\"%@`".toList.contains c) ||
    (c == '-' && !((s.cursor.rest.drop 1).head?.any isSpace)) ||
    (!s.inFlow && (c == '?' || c == ':') && followed 1)

def next (size : Nat) (s : Tokenizer) : Step := do
  let s ← (s.skipToToken size).dropStale
  let s := s.unroll s.cursor.column
  match s.cursor.peek with
  | none =>
      let s ← s.leaveBlocks
      return s.push .streamEnd
  | some c =>
      let separated := s.cursor.separatedAt 1
      if s.cursor.column == 0 && c == '%' then
        let s ← s.leaveBlocks
        s.readDirective
      else if s.cursor.atDocumentMark then
        let s ← s.leaveBlocks
        let token : Token := if c == '-' then .documentStart else .documentEnd
        return { s.push token with cursor := s.cursor.skip.skip.skip }
      else if c == '[' then s.openFlow .flowSequenceStart
      else if c == '\x7b' then s.openFlow .flowMappingStart
      else if c == ']' then s.closeFlow .flowSequenceEnd
      else if c == '\x7d' then s.closeFlow .flowMappingEnd
      else if c == ',' then do
        let s ← s.dropCandidate
        return s.punctuate .flowEntry true
      else if c == '-' && separated then s.readEntry
      else if c == '?' && (s.inFlow || separated) then s.readKey
      else if c == ':' && (s.inFlow || separated) then s.readValue
      else if c == '*' || c == '&' then do
        let s ← s.saveCandidate
        let s ← s.readAnchor (c == '*')
        return { s with keyAllowed := false }
      else if c == '!' then do
        let s ← s.saveCandidate
        let s ← s.readTag
        return { s with keyAllowed := false }
      else if (c == '|' || c == '>') && !s.inFlow then s.readBlockScalar size (c == '|')
      else if c == '\'' || c == '"' then s.readQuoted size (c == '\'')
      else if s.beginsPlain c then s.readPlain size
      else .error .unexpectedCharacter

/-- Reads tokens until the text is over.  Every token but the last takes at least
one character, so `fuel` characters leave enough. -/
def run : Nat → Tokenizer → Except YamlError (Array Token)
  | 0, s => .ok s.tokens
  | fuel + 1, s => do
      let s ← s.next fuel
      if s.tokens.back? == some .streamEnd then return s.tokens else run fuel s

end Tokenizer

def tokens (text : List Char) : Except YamlError (List Token) := do
  if !text.all isPrintable then .error .controlCharacter
  let all ← Tokenizer.run (text.length + 1) (.start text)
  return all.toList

end TagAudit.Yaml
