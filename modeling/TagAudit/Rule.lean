import TagAudit.Issue
import TagAudit.Pattern.Reading
import TagAudit.Schema.Basic
import TagAudit.Schema.Suggestion

/-! The rules of a schema.  Each looks at the occurrences of one file and reports
what it finds on its own; a validator puts the findings of its rules in order. -/

namespace TagAudit

inductive Rule where
  | maxTagsPerFile (most : Nat)
  | matchingClose
  | validIdentifier (pattern : NamePattern)
  | componentRequired (extensions components : List String)
  | noDuplicates
  | knownDimensionValue (dimensions : Dimensions)

namespace Rule

def key : Rule → RuleKey
  | maxTagsPerFile _ => .maxTagsPerFile
  | matchingClose => .matchingClose
  | validIdentifier _ => .validIdentifier
  | componentRequired _ _ => .componentRequired
  | noDuplicates => .noDuplicates
  | knownDimensionValue _ => .knownDimensionValue

def id (rule : Rule) : String :=
  rule.key.id

def primaryTags (occurrences : List Occurrence) : List String :=
  ((occurrences.filter Occurrence.isPrimary).map Occurrence.tag).eraseDups

def tooManyTags (file : String) (count most : Nat) : Issue :=
  { Issue.ofFile .warning RuleKey.maxTagsPerFile.id file
      s!"File has {count} unique primary tags (max {most})" with
    suggestion := some "Split the file or merge related tags" }

/-- The issue of an unclosed occurrence whose closing marker belongs at `insertOffset`. -/
def missingClose (file : String) (o : Occurrence) (insertOffset : Nat) : Issue :=
  ({ Issue.ofFile .error RuleKey.matchingClose.id file
      s!"Tag '{o.tag}' has content but no closing tag" with
    line := some o.startLine,
    suggestion := some s!"Add <!--/TAG:{o.tag}--> after line {o.endLine}" } : Issue).withRepair
    (.close o.tag o.openOffset insertOffset)

def badIdentifier (file : String) (o : Occurrence) (pattern : NamePattern) : Issue :=
  { Issue.ofFile .error RuleKey.validIdentifier.id file
      s!"Tag id '{o.tag}' does not match {pattern.text}" with
    line := some o.startLine }

def missingComponent (file value : String) : Issue :=
  ({ Issue.ofFile .warning RuleKey.componentRequired.id file
      "Missing component:* dimension tag" with
    suggestion := some s!"Add <!--TAG:component:{value}-->" } : Issue).withRepair
    (.insertComponent value)

def duplicateTag (file tag : String) (count line : Nat) : Issue :=
  { Issue.ofFile .warning RuleKey.noDuplicates.id file
      s!"Tag '{tag}' appears {count} times" with
    line := some line }

def unknownValue (file : String) (o : Occurrence) (dimension value : String)
    (known : List String) : Issue :=
  let values := ", ".intercalate known
  { Issue.ofFile .info RuleKey.knownDimensionValue.id file
      s!"Unknown {dimension} value '{value}'" with
    line := some o.startLine,
    suggestion := some s!"Known values: {values}" }

/-- How often a tag occurs, and the line where it does so for the second time. -/
structure Repetition where
  count : Nat
  secondLine : Nat
deriving DecidableEq, Repr

namespace Repetition

/-- What is known of a tag after one more occurrence, on line `line`. -/
def next (line : Nat) : Option Repetition → Repetition
  | none => ⟨1, 0⟩
  | some known => ⟨known.count + 1, if known.count = 1 then line else known.secondLine⟩

def addAll : Std.TreeMap String Repetition → List Occurrence → Std.TreeMap String Repetition
  | known, [] => known
  | known, o :: later =>
      addAll (known.alter o.tag fun before => some (next o.startLine before)) later

def ofOccurrences (occurrences : List Occurrence) : Std.TreeMap String Repetition :=
  addAll ∅ occurrences

end Repetition

def extensionOf (file : String) : String :=
  match (Path.ofString file).extension? with
  | some extension => String.ofList (Schema.normalizeExtension extension)
  | none => ""

def isComponentTag (o : Occurrence) : Bool :=
  match o.dimension with
  | some (category, _) => category == "component"
  | none => false

def check (rule : Rule) (file : String) (occurrences : List Occurrence) : List Issue :=
  match rule with
  | maxTagsPerFile most =>
      let count := (primaryTags occurrences).length
      if count > most then [tooManyTags file count most] else []
  | matchingClose =>
      occurrences.filterMap fun o =>
        match o.closure, o.insertOffset with
        | .unclosed, some insertOffset => some (missingClose file o insertOffset)
        | _, _ => none
  | validIdentifier pattern =>
      (occurrences.filter fun o => !pattern.accepts o.tag).map fun o =>
        badIdentifier file o pattern
  | componentRequired extensions components =>
      if extensions.contains (extensionOf file) && !occurrences.any isComponentTag then
        [missingComponent file (Schema.suggestComponent file components)]
      else []
  | noDuplicates =>
      (Repetition.ofOccurrences occurrences).toList.filterMap fun (tag, found) =>
        if found.count > 1 then some (duplicateTag file tag found.count found.secondLine)
        else none
  | knownDimensionValue dimensions =>
      occurrences.filterMap fun o => do
        let (dimension, value) ← o.dimension
        let known ← dimensions[dimension]?
        if known.isEmpty || known.contains value then none
        else some (unknownValue file o dimension value known)

end Rule

structure Validator where
  rules : List Rule

namespace Validator

/-- The identifier rule of a schema when it is enabled; its pattern must be one. -/
def identifierRules (setting : Setting String) : Except Pattern.PatternError (List Rule) :=
  if setting.enabled then
    (NamePattern.ofText setting.value).map fun pattern => [.validIdentifier pattern]
  else .ok []

def ruleIf (enabled : Bool) (rule : Rule) : List Rule :=
  if enabled then [rule] else []

def ofSchema (schema : Schema) : Except Pattern.PatternError Validator :=
  let settings := schema.rules
  let components := (schema.dimensions["component"]?).getD []
  (identifierRules settings.validIdentifier).map fun identifier =>
    ⟨ruleIf settings.maxTagsPerFile.enabled (.maxTagsPerFile settings.maxTagsPerFile.value) ++
      ruleIf settings.matchingClose.enabled .matchingClose ++
      identifier ++
      ruleIf settings.componentRequired.enabled
        (.componentRequired settings.componentRequired.value components) ++
      ruleIf settings.noDuplicates.enabled .noDuplicates ++
      ruleIf settings.knownDimensionValue.enabled (.knownDimensionValue schema.dimensions)⟩

def validate (validator : Validator) (file : String) (occurrences : List Occurrence) :
    List Issue :=
  Issue.sort (validator.rules.flatMap fun rule => rule.check file occurrences)

end Validator

end TagAudit
