import TagAudit.Rule

/-! What the rules of a schema report: the shapes of their issues, the repairs they ask for,
and the errors among them. -/

namespace TagAudit

def Occurrence.closing? (o : Occurrence) : Option Repair :=
  match o.closure, o.insertOffset with
  | .unclosed, some offset => some (.close o.tag o.openOffset offset)
  | _, _ => none

namespace Rule

/-- The shapes of the issues that a rule may report about a file. -/
inductive Finding (file : String) (occurrences : List Occurrence) : Rule → Issue → Prop
  | tooManyTags (count most : Nat) :
      Finding file occurrences (.maxTagsPerFile most) (tooManyTags file count most)
  | missingClose (o : Occurrence) (offset : Nat) (member : o ∈ occurrences)
      (closing : o.closing? = some (.close o.tag o.openOffset offset)) :
      Finding file occurrences .matchingClose (missingClose file o offset)
  | badIdentifier (o : Occurrence) (pattern : NamePattern) (member : o ∈ occurrences) :
      Finding file occurrences (.validIdentifier pattern) (badIdentifier file o pattern)
  | missingComponent (extensions components : List String) :
      Finding file occurrences (.componentRequired extensions components)
        (missingComponent file (Schema.suggestComponent file components))
  | duplicateTag (tag : String) (count line : Nat) :
      Finding file occurrences .noDuplicates (duplicateTag file tag count line)
  | unknownValue (o : Occurrence) (dimensions : Dimensions) (dimension value : String)
      (known : List String) (member : o ∈ occurrences) :
      Finding file occurrences (.knownDimensionValue dimensions)
        (unknownValue file o dimension value known)

variable {file : String} {occurrences : List Occurrence} {rule : Rule} {issue : Issue}

theorem finding_of_mem_check (member : issue ∈ rule.check file occurrences) :
    Finding file occurrences rule issue := by
  cases rule with
  | maxTagsPerFile most =>
      simp only [check, List.mem_ite_nil_right, List.mem_singleton] at member
      exact member.2 ▸ .tooManyTags _ most
  | matchingClose =>
      simp only [check, List.mem_filterMap] at member
      obtain ⟨o, occurs, found⟩ := member
      split at found
      next offset unclosed inserted =>
        exact Option.some.inj found ▸ .missingClose o offset occurs (by
          simp [Occurrence.closing?, unclosed, inserted])
      next => simp at found
  | validIdentifier pattern =>
      simp only [check, List.mem_map, List.mem_filter] at member
      obtain ⟨o, ⟨occurs, -⟩, rfl⟩ := member
      exact .badIdentifier o pattern occurs
  | componentRequired extensions components =>
      simp only [check, List.mem_ite_nil_right, List.mem_singleton] at member
      exact member.2 ▸ .missingComponent extensions components
  | noDuplicates =>
      simp only [check, List.mem_filterMap] at member
      obtain ⟨⟨tag, repetition⟩, -, found⟩ := member
      split at found
      next => exact Option.some.inj found ▸ .duplicateTag tag _ _
      next => simp at found
  | knownDimensionValue dimensions =>
      simp only [check, List.mem_filterMap, Option.bind_eq_bind, Option.bind_eq_some_iff] at member
      obtain ⟨o, occurs, ⟨dimension, value⟩, -, known, -, found⟩ := member
      split at found
      next => simp at found
      next => exact Option.some.inj found ▸ .unknownValue o dimensions dimension value known occurs

def severity : Rule → Severity
  | matchingClose | validIdentifier _ => .error
  | knownDimensionValue _ => .info
  | _ => .warning

namespace Finding

theorem rule_eq (finding : Finding file occurrences rule issue) : issue.rule = rule.id := by
  cases finding <;> rfl

theorem severity_eq (finding : Finding file occurrences rule issue) :
    issue.severity = rule.severity := by
  cases finding <;> rfl

theorem fixable_eq (finding : Finding file occurrences rule issue) :
    issue.fixable = issue.repair.isSome := by
  cases finding <;> rfl

end Finding

def repairs (rule : Rule) (file : String) (occurrences : List Occurrence) : List Repair :=
  match rule with
  | matchingClose => occurrences.filterMap Occurrence.closing?
  | componentRequired extensions components =>
      if extensions.contains (extensionOf file) && !occurrences.any isComponentTag then
        [.insertComponent (Schema.suggestComponent file components)]
      else []
  | _ => []

private theorem filterMap_repair_eq_nil
    (plain : ∀ issue, Finding file occurrences rule issue → issue.repair = none) :
    (rule.check file occurrences).filterMap Issue.repair = [] :=
  List.filterMap_eq_nil_iff.mpr fun issue member => plain issue (finding_of_mem_check member)

theorem filterMap_repair_check (rule : Rule) (file : String) (occurrences : List Occurrence) :
    (rule.check file occurrences).filterMap Issue.repair = rule.repairs file occurrences := by
  cases rule with
  | matchingClose =>
      simp only [check, repairs, List.filterMap_filterMap]
      congr 1
      funext o
      cases unclosed : o.closure <;> cases inserted : o.insertOffset <;>
        simp [Occurrence.closing?, unclosed, inserted, Rule.missingClose, Issue.withRepair]
  | componentRequired extensions components =>
      simp only [check, repairs]
      split <;> rfl
  | maxTagsPerFile most => exact filterMap_repair_eq_nil fun _ finding => by cases finding; rfl
  | validIdentifier pattern => exact filterMap_repair_eq_nil fun _ finding => by cases finding; rfl
  | noDuplicates => exact filterMap_repair_eq_nil fun _ finding => by cases finding; rfl
  | knownDimensionValue dimensions =>
      exact filterMap_repair_eq_nil fun _ finding => by cases finding; rfl

theorem filter_rule_check (rule : Rule) (name file : String) (occurrences : List Occurrence) :
    (rule.check file occurrences).filter (·.rule == name) =
      if rule.id == name then rule.check file occurrences else [] := by
  split
  next same =>
    refine List.filter_eq_self.mpr fun issue member => ?_
    rw [(finding_of_mem_check member).rule_eq, same]
  next differ =>
    refine List.filter_eq_nil_iff.mpr fun issue member => ?_
    rw [(finding_of_mem_check member).rule_eq]
    exact differ

def errors (rule : Rule) (occurrences : List Occurrence) : Nat :=
  match rule with
  | matchingClose => occurrences.countP fun o => o.closing?.isSome
  | validIdentifier pattern => occurrences.countP fun o => !pattern.accepts o.tag
  | _ => 0

private theorem countP_error_eq_zero (mild : rule.severity ≠ .error) :
    (rule.check file occurrences).countP (·.severity == .error) = 0 :=
  List.countP_eq_zero.mpr fun _ member => by
    simpa [(finding_of_mem_check member).severity_eq] using mild

theorem countP_error_check (rule : Rule) (file : String) (occurrences : List Occurrence) :
    (rule.check file occurrences).countP (·.severity == .error) = rule.errors occurrences := by
  cases rule with
  | matchingClose =>
      simp only [check, errors, List.countP_filterMap]
      congr 1
      funext o
      cases unclosed : o.closure <;> cases inserted : o.insertOffset <;>
        simp [Occurrence.closing?, unclosed, inserted, Rule.missingClose, Issue.withRepair,
          Issue.ofFile]
  | validIdentifier pattern =>
      simp only [check, errors, List.countP_map, List.countP_filter]
      congr 1
  | maxTagsPerFile most => exact countP_error_eq_zero nofun
  | componentRequired extensions components => exact countP_error_eq_zero nofun
  | noDuplicates => exact countP_error_eq_zero nofun
  | knownDimensionValue dimensions => exact countP_error_eq_zero nofun

end Rule

/-! The enabled rules of a schema. -/

namespace Schema

def lacksComponent (schema : Schema) (file : String) (occurrences : List Occurrence) : Bool :=
  schema.rules.componentRequired.enabled &&
    (schema.rules.componentRequired.value.contains (Rule.extensionOf file) &&
      !occurrences.any Rule.isComponentTag)

def suggestion (schema : Schema) (file : String) : String :=
  suggestComponent file ((schema.dimensions["component"]?).getD [])

def rejects (schema : Schema) (name : String) : Bool :=
  schema.rules.validIdentifier.enabled &&
    match NamePattern.ofText schema.rules.validIdentifier.value with
    | .ok pattern => !pattern.accepts name
    | .error _ => false

/-- The repairs of the unclosed tags, when their rule is enabled. -/
def closings (schema : Schema) (occurrences : List Occurrence) : List Repair :=
  if schema.rules.matchingClose.enabled then occurrences.filterMap Occurrence.closing? else []

def components (schema : Schema) (file : String) (occurrences : List Occurrence) :
    List Repair :=
  if schema.lacksComponent file occurrences then [.insertComponent (schema.suggestion file)]
  else []

end Schema

namespace Validator

variable {schema : Schema} {validator : Validator} {file : String}
  {occurrences : List Occurrence}

theorem validate_perm (validator : Validator) (file : String) (occurrences : List Occurrence) :
    (validator.validate file occurrences).Perm
      (validator.rules.flatMap fun rule => rule.check file occurrences) :=
  List.mergeSort_perm _ _

theorem finding_of_mem_validate {issue : Issue}
    (member : issue ∈ validator.validate file occurrences) :
    ∃ rule ∈ validator.rules, Rule.Finding file occurrences rule issue := by
  have reported := (validate_perm validator file occurrences).subset member
  rw [List.mem_flatMap] at reported
  obtain ⟨rule, enabled, found⟩ := reported
  exact ⟨rule, enabled, Rule.finding_of_mem_check found⟩

@[simp] theorem flatMap_ruleIf {α : Type} (enabled : Bool) (rule : Rule) (f : Rule → List α) :
    (ruleIf enabled rule).flatMap f = if enabled then f rule else [] := by
  cases enabled <;> simp [ruleIf]

theorem identifierRules_cases {setting : Setting String} {identifier : List Rule}
    (read : identifierRules setting = .ok identifier) :
    (setting.enabled = false ∧ identifier = []) ∨
      ∃ pattern, setting.enabled = true ∧ NamePattern.ofText setting.value = .ok pattern ∧
        identifier = [.validIdentifier pattern] := by
  simp only [identifierRules] at read
  split at read
  next enabled =>
    cases pattern : NamePattern.ofText setting.value with
    | error e => simp [pattern, Except.map] at read
    | ok found =>
        simp only [pattern, Except.map, Except.ok.injEq] at read
        exact .inr ⟨found, enabled, rfl, read.symm⟩
  next disabled =>
    cases read
    exact .inl ⟨by simpa using disabled, rfl⟩

theorem rules_of_ofSchema (built : ofSchema schema = .ok validator) :
    ∃ identifier, identifierRules schema.rules.validIdentifier = .ok identifier ∧
      validator.rules =
        ruleIf schema.rules.maxTagsPerFile.enabled
            (.maxTagsPerFile schema.rules.maxTagsPerFile.value) ++
          ruleIf schema.rules.matchingClose.enabled .matchingClose ++ identifier ++
          ruleIf schema.rules.componentRequired.enabled
            (.componentRequired schema.rules.componentRequired.value
              ((schema.dimensions["component"]?).getD [])) ++
          ruleIf schema.rules.noDuplicates.enabled .noDuplicates ++
          ruleIf schema.rules.knownDimensionValue.enabled
            (.knownDimensionValue schema.dimensions) := by
  simp only [ofSchema] at built
  cases read : identifierRules schema.rules.validIdentifier with
  | error e => simp [read, Except.map] at built
  | ok identifier =>
      simp only [read, Except.map, Except.ok.injEq] at built
      exact ⟨identifier, rfl, by rw [← built]⟩

theorem repairs_validate (built : ofSchema schema = .ok validator) (file : String)
    (occurrences : List Occurrence) :
    ((validator.validate file occurrences).filterMap Issue.repair).Perm
      (schema.closings occurrences ++ schema.components file occurrences) := by
  obtain ⟨identifier, read, rules⟩ := rules_of_ofSchema built
  have plain : identifier.flatMap (·.repairs file occurrences) = [] := by
    rcases identifierRules_cases read with ⟨-, rfl⟩ | ⟨pattern, -, -, rfl⟩ <;> simp [Rule.repairs]
  refine ((validate_perm validator file occurrences).filterMap _).trans (List.Perm.of_eq ?_)
  rw [List.filterMap_flatMap, rules]
  simp only [Rule.filterMap_repair_check, List.flatMap_append, plain, flatMap_ruleIf]
  by_cases enabled : schema.rules.componentRequired.enabled = true <;>
    simp [Rule.repairs, Schema.closings, Schema.components, Schema.lacksComponent,
      Schema.suggestion, enabled]

theorem repairs_matchingClose (built : ofSchema schema = .ok validator) (file : String)
    (occurrences : List Occurrence) :
    (((validator.validate file occurrences).filter (·.rule == "matching-close")).filterMap
      Issue.repair).Perm (schema.closings occurrences) := by
  obtain ⟨identifier, read, rules⟩ := rules_of_ofSchema built
  have other : identifier.flatMap (fun rule => ((rule.check file occurrences).filter
      (·.rule == "matching-close")).filterMap Issue.repair) = [] := by
    rcases identifierRules_cases read with ⟨-, rfl⟩ | ⟨pattern, -, -, rfl⟩ <;>
      simp [Rule.filter_rule_check, Rule.id, Rule.key, RuleKey.id]
  refine (((validate_perm validator file occurrences).filter _).filterMap _).trans
    (List.Perm.of_eq ?_)
  rw [List.filter_flatMap, List.filterMap_flatMap, rules]
  rw [List.flatMap_append, List.flatMap_append, List.flatMap_append, List.flatMap_append,
    List.flatMap_append, other]
  simp only [flatMap_ruleIf, Rule.filter_rule_check]
  simp [Rule.id, Rule.key, RuleKey.id, Rule.filterMap_repair_check, Rule.repairs, Schema.closings]

theorem errors_validate (built : ofSchema schema = .ok validator) (file : String)
    (occurrences : List Occurrence) :
    (validator.validate file occurrences).countP (·.severity == .error) =
      (schema.closings occurrences).length + occurrences.countP fun o => schema.rejects o.tag := by
  obtain ⟨identifier, read, rules⟩ := rules_of_ofSchema built
  have refused :
      (identifier.flatMap (·.check file occurrences)).countP (·.severity == .error) =
        occurrences.countP fun o => schema.rejects o.tag := by
    rcases identifierRules_cases read with ⟨disabled, rfl⟩ | ⟨pattern, enabled, named, rfl⟩
    · simp [Schema.rejects, disabled]
    · simp [Rule.countP_error_check, Rule.errors, Schema.rejects, enabled, named]
  have single (enabled : Bool) (rule : Rule) :
      ((ruleIf enabled rule).flatMap (·.check file occurrences)).countP (·.severity == .error) =
        if enabled then rule.errors occurrences else 0 := by
    cases enabled <;> simp [ruleIf, Rule.countP_error_check]
  rw [(validate_perm validator file occurrences).countP_eq, rules]
  simp only [List.flatMap_append, List.countP_append, refused, single, Rule.errors]
  cases enabled : schema.rules.matchingClose.enabled with
  | false => simp [Schema.closings, enabled]
  | true => simp [Schema.closings, enabled, List.length_filterMap_eq_countP]

end Validator

end TagAudit
