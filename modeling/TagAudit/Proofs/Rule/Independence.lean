import TagAudit.Check
import TagAudit.Proofs.Rule.Findings
import TagAudit.Proofs.Rule.Ordering
import TagAudit.Proofs.Schema.Building

/-! The rules of a schema do not look at each other: a rule that is switched off takes its own
issues with it and leaves all others as they were, in their order. -/

namespace TagAudit

namespace RuleKey

theorem filter_eq_all (key : RuleKey) : all.filter (· = key) = [key] := by
  cases key <;> decide

theorem id_injective : Function.Injective id := by
  intro key other
  cases key <;> cases other <;> decide

end RuleKey

namespace Schema

def enabled (schema : Schema) : RuleKey → Bool
  | .maxTagsPerFile => schema.rules.maxTagsPerFile.enabled
  | .matchingClose => schema.rules.matchingClose.enabled
  | .validIdentifier => schema.rules.validIdentifier.enabled
  | .componentRequired => schema.rules.componentRequired.enabled
  | .noDuplicates => schema.rules.noDuplicates.enabled
  | .knownDimensionValue => schema.rules.knownDimensionValue.enabled

def switched (schema : Schema) (on : RuleKey → Bool) : Schema :=
  let rules := schema.rules
  { schema with
    rules :=
      { maxTagsPerFile := { rules.maxTagsPerFile with enabled := on .maxTagsPerFile },
        matchingClose := { rules.matchingClose with enabled := on .matchingClose },
        validIdentifier := { rules.validIdentifier with enabled := on .validIdentifier },
        componentRequired := { rules.componentRequired with enabled := on .componentRequired },
        noDuplicates := { rules.noDuplicates with enabled := on .noDuplicates },
        knownDimensionValue :=
          { rules.knownDimensionValue with enabled := on .knownDimensionValue } } }

def without (schema : Schema) (key : RuleKey) : Schema :=
  schema.switched fun other => other != key && schema.enabled other

def findings (schema : Schema) (file content : String) :
    Except Pattern.PatternError (List Issue) :=
  (Checker.ofSchema schema).map (·.issues file content)

theorem switched_enabled (schema : Schema) : schema.switched schema.enabled = schema :=
  rfl

theorem scanOptions_switched (schema : Schema) (on : RuleKey → Bool) :
    (schema.switched on).scanOptions = schema.scanOptions :=
  rfl

def ruleOf (schema : Schema) (pattern : NamePattern) : RuleKey → Rule
  | .maxTagsPerFile => .maxTagsPerFile schema.rules.maxTagsPerFile.value
  | .matchingClose => .matchingClose
  | .validIdentifier => .validIdentifier pattern
  | .componentRequired =>
      .componentRequired schema.rules.componentRequired.value
        ((schema.dimensions["component"]?).getD [])
  | .noDuplicates => .noDuplicates
  | .knownDimensionValue => .knownDimensionValue schema.dimensions

def found (schema : Schema) (pattern : NamePattern) (file content : String) (key : RuleKey) :
    List Issue :=
  (schema.ruleOf pattern key).check file (schema.scanOptions.scan file content)

variable {schema : Schema} {pattern : NamePattern} {file content : String}

theorem rule_eq_of_mem_found {key : RuleKey} {issue : Issue}
    (member : issue ∈ schema.found pattern file content key) : issue.rule = key.id := by
  rw [(Rule.finding_of_mem_check member).rule_eq]
  cases key <;> rfl

private theorem flatMap_filter {α β : Type} (p : α → Bool) (f : α → List β) (keys : List α) :
    (keys.filter p).flatMap f = keys.flatMap fun key => if p key then f key else [] := by
  induction keys with
  | nil => rfl
  | cons key keys induction => cases kept : p key <;> simp [kept, induction]

theorem filter_flatMap_found (keys : List RuleKey) (p : RuleKey → Bool) {q : Issue → Bool}
    (agrees : ∀ key issue, issue.rule = key.id → q issue = p key) :
    (keys.flatMap (schema.found pattern file content)).filter q =
      (keys.filter p).flatMap (schema.found pattern file content) := by
  rw [List.filter_flatMap, flatMap_filter]
  congr 1
  funext key
  have bears : ∀ issue ∈ schema.found pattern file content key, q issue = p key :=
    fun issue member => agrees key issue (rule_eq_of_mem_found member)
  cases kept : p key with
  | false => exact List.filter_eq_nil_iff.mpr fun issue member => by simp [bears issue member, kept]
  | true => exact List.filter_eq_self.mpr fun issue member => by simp [bears issue member, kept]

theorem ofSchema_switched
    (named : NamePattern.ofText schema.rules.validIdentifier.value = .ok pattern)
    (on : RuleKey → Bool) :
    Validator.ofSchema (schema.switched on) =
      .ok ⟨RuleKey.all.flatMap fun key =>
        Validator.ruleIf (on key) (schema.ruleOf pattern key)⟩ := by
  have identifier : Validator.identifierRules (schema.switched on).rules.validIdentifier =
      .ok (Validator.ruleIf (on .validIdentifier) (.validIdentifier pattern)) := by
    rw [Validator.identifierRules, show (schema.switched on).rules.validIdentifier.value =
      schema.rules.validIdentifier.value from rfl, named]
    exact (apply_ite Except.ok _ _ _).symm
  rw [Validator.ofSchema, identifier]
  simp only [Except.map, RuleKey.all, List.flatMap_cons, List.flatMap_nil, List.append_nil,
    List.append_assoc]
  rfl

theorem findings_switched
    (named : NamePattern.ofText schema.rules.validIdentifier.value = .ok pattern)
    (on : RuleKey → Bool) (file content : String) :
    (schema.switched on).findings file content =
      .ok (Issue.sort ((RuleKey.all.filter on).flatMap (schema.found pattern file content))) := by
  rw [findings, Checker.ofSchema, ofSchema_switched named, scanOptions_switched, flatMap_filter]
  simp only [Except.map, Checker.issues, Validator.validate, List.flatMap_assoc,
    Validator.flatMap_ruleIf]
  rfl

/-- When the identifier pattern is one, a rule that is switched off takes away the issues that
bear its name and no others.  So any rules together report what each reports alone, merged in
order, and every rule has its own issues among them as it reports them alone. -/
theorem findings_independent
    (named : NamePattern.ofText schema.rules.validIdentifier.value = .ok pattern)
    (file content : String) :
    ∃ reported, schema.findings file content = .ok reported ∧
      (∀ key, (schema.without key).findings file content =
        .ok (reported.filter (·.rule ≠ key.id))) ∧
      ∃ alone : RuleKey → List Issue,
        (∀ key, (schema.switched (· = key)).findings file content = .ok (alone key)) ∧
        ∀ on, ∃ merged,
          (schema.switched on).findings file content = .ok merged ∧
          merged = ((RuleKey.all.filter on).map alone).foldr (List.merge · · Issue.before) [] ∧
          ∀ key, merged.filter (·.rule = key.id) = if on key then alone key else [] := by
  have apart (key : RuleKey) (other : RuleKey) (issue : Issue) (bears : issue.rule = other.id) :
      issue.rule = key.id ↔ other = key :=
    bears ▸ RuleKey.id_injective.eq_iff
  have reported := findings_switched named schema.enabled file content
  rw [switched_enabled] at reported
  refine ⟨_, reported, fun key => ?_,
    fun key => Issue.sort (schema.found pattern file content key), fun key => ?_,
    fun on => ⟨_, findings_switched named on file content, Issue.sort_flatMap _ _, fun key => ?_⟩⟩
  · rw [without, findings_switched named, Issue.filter_sort,
      filter_flatMap_found _ (· != key) fun other issue bears => by
        simp [apart key other issue bears, bne, beq_eq_decide],
      List.filter_filter]
  · rw [findings_switched named, RuleKey.filter_eq_all, List.flatMap_singleton]
  · rw [Issue.filter_sort, filter_flatMap_found _ (· = key) fun other issue bears => by
      simp [apart key other issue bears], List.filter_comm, RuleKey.filter_eq_all]
    cases switched : on key with
    | false => simp [switched, Issue.sort]
    | true => simp [switched]

/-- Without the rule about repeated tags the missing component tag is still reported. -/
theorem findings_independent_twice :
    Schema.default.findings "x.py" "<!--TAG:a-->\n<!--TAG:a-->" =
        .ok [Rule.missingComponent "x.py" "misc", Rule.duplicateTag "x.py" "a" 2 2] ∧
      (Schema.default.without .noDuplicates).findings "x.py" "<!--TAG:a-->\n<!--TAG:a-->" =
        .ok [Rule.missingComponent "x.py" "misc"] := by
  have found : (RuleKey.all.filter Schema.default.enabled).flatMap
      (Schema.default.found defaultPattern "x.py" "<!--TAG:a-->\n<!--TAG:a-->") =
        [Rule.missingComponent "x.py" "misc", Rule.duplicateTag "x.py" "a" 2 2] := rfl
  have all := findings_switched ofText_defaultPattern Schema.default.enabled "x.py"
    "<!--TAG:a-->\n<!--TAG:a-->"
  rw [switched_enabled, found, Issue.sort, List.mergeSort_of_pairwise (by decide)] at all
  obtain ⟨reported, whole, without, -⟩ :=
    findings_independent ofText_defaultPattern "x.py" "<!--TAG:a-->\n<!--TAG:a-->"
  obtain rfl := Except.ok.inj (whole.symm.trans all)
  exact ⟨all, (without .noDuplicates).trans (by decide)⟩

end Schema

end TagAudit
