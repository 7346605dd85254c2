import TagAudit.Pattern.Reading
import TagAudit.Schema.Basic
import TagAudit.Yaml.Value

/-! Schema documents: what their entries say, and the schema that they make.
Entries of rules are read in the order of their keys, and a key may be spelled in
several ways. -/

namespace TagAudit

open Yaml

structure RuleParams where
  enabled : Option Bool
  max : Option Nat
  threshold : Option Nat
  pattern : Option String
  extensions : Option (List String)
deriving DecidableEq, Repr

inductive RuleEntry where
  /-- Switches the rule on or off. -/
  | flag (on : Bool)
  | number (n : Nat)
  | text (s : String)
  | params (p : RuleParams)
deriving DecidableEq, Repr

structure SchemaDocument where
  dimensions : Std.TreeMap String (List String)
  rules : Std.TreeMap String RuleEntry

inductive SchemaError where
  | notYaml (cause : YamlError)
  | badShape (cause : ShapeError)
  | badPattern (pattern : String) (cause : Pattern.PatternError)
deriving DecidableEq, Repr

namespace SchemaDocument

def empty : SchemaDocument := ⟨∅, ∅⟩

/-! Reading the values of a document. -/

def textOf : Value → Except ShapeError String
  | .text s => .ok s
  | _ => .error .unexpectedType

def textsOf : Value → Except ShapeError (List String)
  | .sequence items => items.mapM textOf
  | _ => .error .unexpectedType

def boolOf : Value → Except ShapeError Bool
  | .bool b => .ok b
  | _ => .error .unexpectedType

/-- A number that fits into 64 bits without sign. -/
def numberOf : Value → Except ShapeError Nat
  | .integer n => if 0 ≤ n then .ok n.toNat else .error .unexpectedType
  | _ => .error .unexpectedType

def optional (read : Value → Except ShapeError α) : Value → Except ShapeError (Option α)
  | .null => .ok none
  | value => (read value).map some

/-- The entries of a mapping by field name.  A number stands for the field in its
place among `names`. -/
def namedFields (names : List String) (entries : List (Value × Value)) :
    Except ShapeError (List (String × Value)) :=
  entries.mapM fun (key, value) =>
    match key with
    | .text name => .ok (name, value)
    | .integer n =>
        if n < 0 then .error .unexpectedType else .ok ((names[n.toNat]?).getD "", value)
    | _ => .error .unexpectedType

def paramNames : List String := ["enabled", "max", "threshold", "pattern", "extensions"]

def paramsOfFields (fields : List (String × Value)) : Except ShapeError RuleParams := do
  let get {α : Type} (name : String) (read : Value → Except ShapeError α) :
      Except ShapeError (Option α) := do
    match ← Document.field name fields with
    | none => return none
    | some value => optional read value
  return {
    enabled := ← get "enabled" boolOf,
    max := ← get "max" numberOf,
    threshold := ← get "threshold" numberOf,
    pattern := ← get "pattern" textOf,
    extensions := ← get "extensions" textsOf }

/-- What the value of a rule says.  A list gives all parameters in their order. -/
def entryOf : Value → Except ShapeError RuleEntry
  | .bool on => .ok (.flag on)
  | .integer n => (numberOf (.integer n)).map .number
  | .text s => .ok (.text s)
  | .mapping entries => do
      return .params (← paramsOfFields (← namedFields paramNames entries))
  | .sequence items =>
      if items.length = paramNames.length then
        (paramsOfFields (paramNames.zip items)).map .params
      else .error .unexpectedType
  | .null | .float => .error .unexpectedType

def valuesOf : Value → Except ShapeError (List String)
  | .mapping entries => do
      match ← Document.field "values" (← namedFields ["values"] entries) with
      | none => return []
      | some values => textsOf values
  | value => textsOf value

/-- How deeply the values of a document may be nested, the document itself and
its two sections not counted. -/
def depthLimit : Nat := 126

/-- The map of a section; a repeated key keeps its last value. -/
def section? (doc : Document) (read : Node → Except ShapeError α) (node : Option Node) :
    Except ShapeError (Std.TreeMap String α) :=
  match node with
  | none => .ok ∅
  | some node => do
      let entries ← doc.entries node
      return Std.TreeMap.ofList (← entries.mapM fun (key, item) => do return (key, ← read item))

def ofYaml (doc : Document) : Except ShapeError SchemaDocument :=
  match doc.node with
  | none => .ok .empty
  | some node => do
      let fields ← doc.entries node
      let dimensions ← Document.field "tag_hierarchy" fields
      let rules ← Document.field "tag_rules" fields
      doc.checkAliases (keys node ++ dimensions.toList ++ rules.toList)
      return ⟨← section? doc readDimension dimensions,
        ← section? doc (fun item => do entryOf (← doc.value depthLimit item)) rules⟩
where
  keys : Node → List Node
    | .mapping _ entries => entries.map Prod.fst
    | _ => []
  readDimension (node : Node) : Except ShapeError (List String) := do
    if ← doc.isNull node then return []
    valuesOf (← doc.value depthLimit node)

def read (text : String) : Except SchemaError SchemaDocument :=
  if (Text.trim text.toList).isEmpty then .ok .empty
  else
    match Document.read text with
    | .error cause => .error (.notYaml cause)
    | .ok doc =>
        match ofYaml doc with
        | .error cause => .error (.badShape cause)
        | .ok document => .ok document

/-! The schema of a document. -/

def normalizeKey (key : String) : String :=
  String.ofList ((Text.trim key.toList).map fun c =>
    if c = '_' then '-' else Text.asciiLower c)

def ruleOfKey? (key : String) : Option RuleKey :=
  RuleKey.all.find? (·.goesBy (normalizeKey key))

/-- The setting after an entry.  A flag only switches the rule; any other entry switches
it on, unless it says otherwise, and sets the value that it gives. -/
def update (setting : Setting α) (entry : RuleEntry) (value : RuleEntry → Option α) :
    Setting α :=
  match entry with
  | .flag on => { setting with enabled := on }
  | entry =>
      let enabled := match entry with
        | .params p => p.enabled.getD true
        | _ => true
      ⟨enabled, (value entry).getD setting.value⟩

def maxIn : RuleEntry → Option Nat
  | .number n => some n
  | .params p => p.max
  | _ => none

def thresholdIn : RuleEntry → Option Nat
  | .number n => some n
  | .params p => p.threshold
  | _ => none

def patternIn : RuleEntry → Option String
  | .text s => some s
  | .params p => p.pattern
  | _ => none

def extensionsIn : RuleEntry → Option (List String)
  | .params p => p.extensions.map fun extensions =>
      extensions.map fun extension => String.ofList (Schema.normalizeExtension extension.toList)
  | _ => none

def apply (settings : RuleSettings) (key : RuleKey) (entry : RuleEntry) : RuleSettings :=
  match key with
  | .maxTagsPerFile =>
      { settings with maxTagsPerFile := update settings.maxTagsPerFile entry maxIn }
  | .matchingClose =>
      { settings with matchingClose := update settings.matchingClose entry thresholdIn }
  | .validIdentifier =>
      { settings with validIdentifier := update settings.validIdentifier entry patternIn }
  | .componentRequired =>
      { settings with
        componentRequired := update settings.componentRequired entry extensionsIn }
  | .noDuplicates =>
      { settings with noDuplicates := update settings.noDuplicates entry fun _ => none }
  | .knownDimensionValue =>
      { settings with
        knownDimensionValue := update settings.knownDimensionValue entry fun _ => none }

/-- The settings after the entries of a document; unknown keys change nothing. -/
def settings (document : SchemaDocument) : RuleSettings :=
  document.rules.toList.foldl (fun settings (key, entry) =>
    match ruleOfKey? key with
    | some key => apply settings key entry
    | none => settings) .default

def unknownRules (document : SchemaDocument) : List String :=
  document.rules.keys.filterMap fun key =>
    if (ruleOfKey? key).isNone then some (normalizeKey key) else none

/-- The dimensions of a document with trimmed names and values; without any, the
built-in ones. -/
def dimensionsOf (document : SchemaDocument) : Dimensions :=
  let dimensions : Dimensions := Std.TreeMap.ofList (document.dimensions.toList.map
    fun (name, values) =>
      (Text.strip name, Schema.valueSet ((values.map Text.strip).filter (· ≠ ""))))
  if dimensions.isEmpty then Schema.defaultDimensions else dimensions

/-- The schema of a document.  Its pattern must be one even when it is not in force. -/
def schema (document : SchemaDocument) : Except SchemaError Schema :=
  let settings := document.settings
  match Pattern.read settings.validIdentifier.value with
  | .error cause => .error (.badPattern settings.validIdentifier.value cause)
  | .ok _ => .ok ⟨document.dimensionsOf, settings⟩

end SchemaDocument

def Schema.read (text : String) : Except SchemaError Schema := do
  (← SchemaDocument.read text).schema

end TagAudit
