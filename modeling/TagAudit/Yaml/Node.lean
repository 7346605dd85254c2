import TagAudit.Yaml.Token

/-! The nodes of a YAML document: scalars and collections as written, with tags
resolved and aliases left in place. -/

namespace TagAudit.Yaml

inductive Node where
  | scalar (tag : Option String) (style : ScalarStyle) (text : String)
  | sequence (tag : Option String) (items : List Node)
  | mapping (tag : Option String) (entries : List (Node × Node))
  /-- Stands for the node that was anchored under this number. -/
  | alias (id : Nat)
deriving Repr

namespace Node

def empty : Node := scalar none .plain ""

end Node

structure Reading where
  tokens : List Token
  /-- Tag handles and what they stand for. -/
  handles : List (List Char × List Char)
  /-- Anchor names and their numbers; a name may be used again. -/
  anchors : List (List Char × Nat)
  /-- The nodes anchored so far, latest first. -/
  anchored : List (Nat × Node)

namespace Reading

def peek (r : Reading) : Token :=
  r.tokens.headD .streamEnd

def skip (r : Reading) : Reading :=
  { r with tokens := r.tokens.drop 1 }

/-- Gives the name a number, which is how many names were in use before. -/
def enterAnchor (r : Reading) (name : Option (List Char)) : Option Nat × Reading :=
  match name with
  | none => (none, r)
  | some name =>
      let id := r.anchors.length
      let others := r.anchors.filter fun entry => entry.1 != name
      (some id, { r with anchors := (name, id) :: others })

def record (r : Reading) (id : Option Nat) (node : Node) : Node × Reading :=
  match id with
  | none => (node, r)
  | some id => (node, { r with anchored := (id, node) :: r.anchored })

def resolveTag (r : Reading) (tag : Option (List Char × List Char)) :
    Except YamlError (Option String) :=
  match tag with
  | none => .ok none
  | some ([], suffix) => .ok (some (String.ofList suffix))
  | some (handle, suffix) =>
      match r.handles.lookup handle with
      | some lead => .ok (some (String.ofList (lead ++ suffix)))
      | none => .error .undefinedTagHandle

/-- The anchor and the tag before a node, in either order. -/
def readProperties (r : Reading) : Option (List Char) × Option (List Char × List Char) × Reading :=
  match r.peek with
  | .anchor name =>
      match r.skip.peek with
      | .tag handle suffix => (some name, some (handle, suffix), r.skip.skip)
      | _ => (some name, none, r.skip)
  | .tag handle suffix =>
      match r.skip.peek with
      | .anchor name => (some name, some (handle, suffix), r.skip.skip)
      | _ => (none, some (handle, suffix), r.skip)
  | _ => (none, none, r)

/-- Where a node stands: this decides which collections it may be. -/
inductive Place where
  | block
  /-- A key or value of a block mapping, where a sequence need not be indented. -/
  | blockMapping
  | flow
deriving DecidableEq

def leavesOutEntry : Token → Bool
  | .blockEntry | .blockEnd => true
  | _ => false

def leavesOutIndentless : Token → Bool
  | .blockEntry | .key | .value | .blockEnd => true
  | _ => false

def leavesOutBlockPart : Token → Bool
  | .key | .value | .blockEnd => true
  | _ => false

def leavesOutPairKey : Token → Bool
  | .value | .flowEntry | .flowSequenceEnd => true
  | _ => false

def leavesOutPairValue : Token → Bool
  | .flowEntry | .flowSequenceEnd => true
  | _ => false

def leavesOutFlowKey : Token → Bool
  | .value | .flowEntry | .flowMappingEnd => true
  | _ => false

def leavesOutFlowValue : Token → Bool
  | .flowEntry | .flowMappingEnd => true
  | _ => false

mutual

/-- Reads a node.  `fuel` bounds the tokens to read. -/
def readNode (fuel : Nat) (place : Place) (r : Reading) : Except YamlError (Node × Reading) :=
  match fuel with
  | 0 => .error .unexpectedToken
  | fuel + 1 =>
      match r.peek with
      | .alias name =>
          match r.anchors.lookup name with
          | some id => .ok (.alias id, r.skip)
          | none => .error .unknownAnchor
      | _ => do
          let (anchor, tag, r) := r.readProperties
          let tag ← r.resolveTag tag
          match r.peek with
          | .scalar style text =>
              let (id, r) := r.skip.enterAnchor anchor
              return r.record id (.scalar tag style (String.ofList text))
          | token =>
              let (id, inner) := r.enterAnchor anchor
              if token == .blockEntry && place == .blockMapping then
                let (items, r) ← readIndentless fuel inner
                return r.record id (.sequence tag items)
              else if token == .flowSequenceStart then
                let (items, r) ← readFlowSequence fuel true inner.skip
                return r.record id (.sequence tag items)
              else if token == .flowMappingStart then
                let (entries, r) ← readFlowMapping fuel true inner.skip
                return r.record id (.mapping tag entries)
              else if token == .blockSequenceStart && place != .flow then
                let (items, r) ← readBlockSequence fuel inner.skip
                return r.record id (.sequence tag items)
              else if token == .blockMappingStart && place != .flow then
                let (entries, r) ← readBlockMapping fuel inner.skip
                return r.record id (.mapping tag entries)
              else if anchor.isSome || tag.isSome then
                return inner.record id (.scalar tag .plain "")
              else .error .unexpectedToken

def readOptional (fuel : Nat) (place : Place) (leftOut : Token → Bool) (r : Reading) :
    Except YamlError (Node × Reading) :=
  match fuel with
  | 0 => .error .unexpectedToken
  | fuel + 1 => if leftOut r.peek then .ok (.empty, r) else readNode fuel place r

def readBlockSequence (fuel : Nat) (r : Reading) : Except YamlError (List Node × Reading) :=
  match fuel with
  | 0 => .error .unexpectedToken
  | fuel + 1 =>
      match r.peek with
      | .blockEntry => do
          let (item, r) ← readOptional fuel .block leavesOutEntry r.skip
          let (items, r) ← readBlockSequence fuel r
          return (item :: items, r)
      | .blockEnd => .ok ([], r.skip)
      | _ => .error .unexpectedToken

def readIndentless (fuel : Nat) (r : Reading) : Except YamlError (List Node × Reading) :=
  match fuel with
  | 0 => .error .unexpectedToken
  | fuel + 1 =>
      match r.peek with
      | .blockEntry => do
          let (item, r) ← readOptional fuel .block leavesOutIndentless r.skip
          let (items, r) ← readIndentless fuel r
          return (item :: items, r)
      | _ => .ok ([], r)

def readBlockMapping (fuel : Nat) (r : Reading) : Except YamlError (List (Node × Node) × Reading) :=
  match fuel with
  | 0 => .error .unexpectedToken
  | fuel + 1 =>
      match r.peek with
      | .key => do
          let (key, r) ← readOptional fuel .blockMapping leavesOutBlockPart r.skip
          let (value, r) ← readBlockValue fuel r
          let (entries, r) ← readBlockMapping fuel r
          return ((key, value) :: entries, r)
      | .blockEnd => .ok ([], r.skip)
      | _ => .error .unexpectedToken

def readBlockValue (fuel : Nat) (r : Reading) : Except YamlError (Node × Reading) :=
  match fuel with
  | 0 => .error .unexpectedToken
  | fuel + 1 =>
      match r.peek with
      | .value => readOptional fuel .blockMapping leavesOutBlockPart r.skip
      | _ => .ok (.empty, r)

def readFlowSequence (fuel : Nat) (first : Bool) (r : Reading) :
    Except YamlError (List Node × Reading) :=
  match fuel with
  | 0 => .error .unexpectedToken
  | fuel + 1 =>
      match r.peek with
      | .flowSequenceEnd => .ok ([], r.skip)
      | token =>
          if !first && token != .flowEntry then .error .unexpectedToken
          else
            let r := if first then r else r.skip
            match r.peek with
            | .flowSequenceEnd => .ok ([], r.skip)
            | .key => do
                let (pair, r) ← readPair fuel r.skip
                let (items, r) ← readFlowSequence fuel false r
                return (.mapping none [pair] :: items, r)
            | _ => do
                let (item, r) ← readNode fuel .flow r
                let (items, r) ← readFlowSequence fuel false r
                return (item :: items, r)

/-- Reads the only entry of a mapping that stands in a flow sequence. -/
def readPair (fuel : Nat) (r : Reading) : Except YamlError ((Node × Node) × Reading) :=
  match fuel with
  | 0 => .error .unexpectedToken
  | fuel + 1 => do
      let (key, r) ←
        if leavesOutPairKey r.peek then pure (.empty, r.skip) else readNode fuel .flow r
      match r.peek with
      | .value =>
          let (value, r) ← readOptional fuel .flow leavesOutPairValue r.skip
          return ((key, value), r)
      | _ => return ((key, .empty), r)

def readFlowMapping (fuel : Nat) (first : Bool) (r : Reading) :
    Except YamlError (List (Node × Node) × Reading) :=
  match fuel with
  | 0 => .error .unexpectedToken
  | fuel + 1 =>
      match r.peek with
      | .flowMappingEnd => .ok ([], r.skip)
      | token =>
          if !first && token != .flowEntry then .error .unexpectedToken
          else
            let r := if first then r else r.skip
            match r.peek with
            | .flowMappingEnd => .ok ([], r.skip)
            | .key => do
                let (key, r) ← readOptional fuel .flow leavesOutFlowKey r.skip
                let (value, r) ← readFlowValue fuel r
                let (entries, r) ← readFlowMapping fuel false r
                return ((key, value) :: entries, r)
            | _ => do
                let (key, r) ← readNode fuel .flow r
                let (entries, r) ← readFlowMapping fuel false r
                return ((key, .empty) :: entries, r)

def readFlowValue (fuel : Nat) (r : Reading) : Except YamlError (Node × Reading) :=
  match fuel with
  | 0 => .error .unexpectedToken
  | fuel + 1 =>
      match r.peek with
      | .value => readOptional fuel .flow leavesOutFlowValue r.skip
      | _ => .ok (.empty, r)

end

/-- Reads the directives before a document.  A version may be given once and must
be 1.1 or 1.2, and each handle may be declared once. -/
def readDirectives : Nat → Bool → Reading → Except YamlError Reading
  | 0, _, r => .ok r
  | fuel + 1, versioned, r =>
      match r.peek with
      | .versionDirective major minor =>
          if versioned || major != 1 || (minor != 1 && minor != 2) then .error .badDirective
          else readDirectives fuel true r.skip
      | .tagDirective handle lead =>
          if (r.handles.lookup handle).isSome then .error .badDirective
          else readDirectives fuel versioned
            { r.skip with handles := (handle, lead) :: r.handles }
      | _ => .ok r

end Reading

structure Document where
  node : Option Node
  anchored : List (Nat × Node)

namespace Document

def defaultHandles : List (List Char × List Char) :=
  [(['!'], ['!']), (['!', '!'], "tag:yaml.org,2002:".toList)]

def ofTokens (tokens : List Token) : Except YamlError Document := do
  let r : Reading := ⟨tokens, [], [], []⟩
  let fuel := 4 * tokens.length + 4
  if r.peek == .streamEnd then return ⟨none, []⟩
  let declared ← Reading.readDirectives fuel false r
  let hasDirectives := declared.tokens.length < tokens.length
  let r := { declared with
    handles := declared.handles ++ defaultHandles.filter fun entry =>
      (declared.handles.lookup entry.1).isNone }
  let (node, r) ←
    if r.peek == .documentStart then
      let r := r.skip
      match r.peek with
      | .versionDirective .. | .tagDirective .. | .documentStart | .documentEnd | .streamEnd =>
          pure (.empty, r)
      | _ => Reading.readNode fuel .block r
    else if hasDirectives then .error .unexpectedToken
    else Reading.readNode fuel .block r
  if (r.tokens.dropWhile (· == .documentEnd)) == [.streamEnd] then
    return ⟨some node, r.anchored⟩
  else .error .severalDocuments

def read (text : String) : Except YamlError Document := do
  ofTokens (← tokens text.toList)

end Document

end TagAudit.Yaml
