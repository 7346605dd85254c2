import Std.Data.TreeMap
import TagAudit.Marker.Scan

/-! The schema that files are checked against: the dimensions with their known
values, and the settings of the six rules. -/

namespace TagAudit

inductive RuleKey where
  | maxTagsPerFile
  | matchingClose
  | validIdentifier
  | componentRequired
  | noDuplicates
  | knownDimensionValue
deriving DecidableEq, Repr

namespace RuleKey

/-- The rules in the order in which a validator lists them. -/
def all : List RuleKey :=
  [maxTagsPerFile, matchingClose, validIdentifier, componentRequired, noDuplicates,
    knownDimensionValue]

def id : RuleKey → String
  | maxTagsPerFile => "max-tags-per-file"
  | matchingClose => "matching-close"
  | validIdentifier => "valid-identifier"
  | componentRequired => "component-required"
  | noDuplicates => "no-duplicates"
  | knownDimensionValue => "known-dimension-value"

/-- A second name that a schema document may use. -/
def alias? : RuleKey → Option String
  | matchingClose => some "unclosed-threshold"
  | validIdentifier => some "naming-pattern"
  | _ => none

def goesBy (rule : RuleKey) (name : String) : Bool :=
  rule.id == name || rule.alias? == some name

end RuleKey

structure Setting (α : Type) where
  enabled : Bool
  value : α
deriving DecidableEq, Repr

structure RuleSettings where
  /-- The most distinct primary tags that a file may hold. -/
  maxTagsPerFile : Setting Nat
  /-- The longest text that an unclosed tag may trail. -/
  matchingClose : Setting Nat
  /-- The pattern of tag names. -/
  validIdentifier : Setting String
  /-- Extensions of the files that must hold a `component` tag. -/
  componentRequired : Setting (List String)
  noDuplicates : Setting Unit
  knownDimensionValue : Setting Unit
deriving DecidableEq, Repr

def RuleSettings.default : RuleSettings :=
  { maxTagsPerFile := ⟨true, 6⟩,
    matchingClose := ⟨true, defaultThreshold⟩,
    validIdentifier := ⟨true, "^[A-Za-z][A-Za-z0-9_:]*$"⟩,
    componentRequired := ⟨true, ["py"]⟩,
    noDuplicates := ⟨true, ()⟩,
    knownDimensionValue := ⟨true, ()⟩ }

/-- Values of each dimension, sorted and without repetition.  A dimension without
values admits any. -/
abbrev Dimensions := Std.TreeMap String (List String)

structure Schema where
  dimensions : Dimensions
  rules : RuleSettings

namespace Schema

/-- Sorted by bytes and without repetition. -/
def valueSet (values : List String) : List String :=
  (values.mergeSort fun a b => decide (a ≤ b)).eraseReps

def defaultDimensions : Dimensions :=
  .ofList [
    ("component", ["automation", "docs", "indexing", "search", "utils", "validation"]),
    ("feature", ["chunking", "embeddings", "graph", "summarization", "tagging"]),
    ("type", ["config", "guide", "module", "reference", "script", "test"])]

def default : Schema :=
  ⟨defaultDimensions, .default⟩

def scanOptions (schema : Schema) : ScanOptions :=
  ⟨schema.dimensions.keys, schema.rules.matchingClose.value⟩

def normalizeExtension (extension : List Char) : List Char :=
  ((Text.trim extension).dropWhile (· == '.')).map Text.asciiLower

end Schema

end TagAudit
