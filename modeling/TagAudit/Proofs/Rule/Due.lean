import Mathlib.Data.Finset.Card
import TagAudit.Proofs.Repair.Unclosed
import TagAudit.Proofs.Rule.Findings
import TagAudit.Proofs.Rule.Ordering
import TagAudit.Proofs.Schema.Building
import TagAudit.Proofs.Text.Splitting

/-! What there is to report about the occurrences of a file, written down rule by rule, and
that a validator reports exactly this, each issue as often as it is due. -/

namespace TagAudit

/-! The table of repetitions. -/

namespace Rule.Repetition

def nextAll (before : Option Repetition) (occurrences : List Occurrence) : Option Repetition :=
  occurrences.foldl (fun before o => some (next o.startLine before)) before

theorem getElem?_addAll (known : Std.TreeMap String Repetition) (occurrences : List Occurrence)
    (tag : String) :
    (addAll known occurrences)[tag]? = nextAll known[tag]? (occurrences.filter (·.tag == tag)) := by
  induction occurrences generalizing known with
  | nil => rfl
  | cons o later induction =>
      rw [addAll, induction, Std.TreeMap.getElem?_alter]
      by_cases same : o.tag = tag
      · simp [same, nextAll]
      · simp [same]

theorem nextAll_repeated (count line : Nat) (more : List Occurrence) :
    nextAll (some ⟨count + 2, line⟩) more = some ⟨more.length + count + 2, line⟩ := by
  induction more generalizing count with
  | nil => simp [nextAll]
  | cons o more induction =>
      have step := induction (count + 1)
      rw [nextAll] at step ⊢
      rw [List.foldl_cons, next, if_neg (by simp), step, List.length_cons]
      congr 2
      omega

theorem getElem?_ofOccurrences (occurrences : List Occurrence) (tag : String) :
    (ofOccurrences occurrences)[tag]? =
      match occurrences.filter (·.tag == tag) with
      | [] => none
      | [_] => some ⟨1, 0⟩
      | _ :: second :: more => some ⟨more.length + 2, second.startLine⟩ := by
  rw [ofOccurrences, getElem?_addAll, Std.TreeMap.getElem?_emptyc]
  cases occurrences.filter (·.tag == tag) with
  | nil => rfl
  | cons first rest =>
      cases rest with
      | nil => rfl
      | cons second more => exact nextAll_repeated 0 second.startLine more

theorem getElem?_repeated {occurrences : List Occurrence} {tag : String} {found : Repetition} :
    (ofOccurrences occurrences)[tag]? = some found ∧ 1 < found.count ↔
      2 ≤ (occurrences.filter (·.tag == tag)).length ∧
        found = ⟨(occurrences.filter (·.tag == tag)).length,
          ((occurrences.filter (·.tag == tag))[1]?.map Occurrence.startLine).getD 0⟩ := by
  rw [getElem?_ofOccurrences]
  cases occurrences.filter (·.tag == tag) with
  | nil => simp
  | cons first rest =>
      cases rest with
      | nil =>
          simp only [Option.some.injEq, List.length_singleton]
          constructor
          · rintro ⟨rfl, often⟩
            exact absurd often (Nat.lt_irrefl 1)
          · rintro ⟨often, -⟩
            exact absurd often (by omega)
      | cons second more =>
          simp only [Option.some.injEq, List.length_cons, List.getElem?_cons_succ,
            List.getElem?_cons_zero, Option.map_some, Option.getD_some]
          constructor
          · rintro ⟨rfl, -⟩
            exact ⟨by omega, rfl⟩
          · rintro ⟨-, rfl⟩
            exact ⟨rfl, by simp⟩

end Rule.Repetition

/-! What is due, rule by rule.  Every field of an issue is written out here, the names of the
rules among them, and nothing of what the rules do is taken for granted. -/

namespace Due

def category (o : Occurrence) : String :=
  String.ofList (o.tag.toList.takeWhile (· ≠ ':'))

/-- The part of a tag behind its first colon. -/
def facet (o : Occurrence) : String :=
  String.ofList ((o.tag.toList.dropWhile (· ≠ ':')).drop 1)

variable (file : String) (occurrences : List Occurrence)

/-- One issue when there are more distinct primary tags than `most`. -/
def tooManyTags (most : Nat) : Multiset Issue :=
  let primary := occurrences.filter fun o => o.kind = .primary
  let count := (primary.map Occurrence.tag).toFinset.card
  let issue : Issue :=
    { severity := .warning, rule := "max-tags-per-file", file := file, line := none,
      message := s!"File has {count} unique primary tags (max {most})",
      suggestion := some "Split the file or merge related tags",
      fixable := false, repair := none }
  if most < count then {issue} else 0

/-- One issue for each unclosed occurrence that says where its closing marker belongs. -/
def missingCloses : Multiset Issue :=
  ((occurrences : Multiset Occurrence).filter fun o =>
      o.closure = .unclosed ∧ o.insertOffset.isSome = true).map fun o =>
    { severity := .error, rule := "matching-close", file := file, line := some o.startLine,
      message := s!"Tag '{o.tag}' has content but no closing tag",
      suggestion := some s!"Add <!--/TAG:{o.tag}--> after line {o.endLine}",
      fixable := true, repair := o.insertOffset.map (.close o.tag o.openOffset) }

/-- One issue for each occurrence whose tag the pattern refuses. -/
def badIdentifiers (pattern : String) : Multiset Issue :=
  match NamePattern.ofText pattern with
  | .ok names =>
      ((occurrences : Multiset Occurrence).filter fun o => names.accepts o.tag = false).map fun o =>
        { severity := .error, rule := "valid-identifier", file := file, line := some o.startLine,
          message := s!"Tag id '{o.tag}' does not match {pattern}", suggestion := none,
          fixable := false, repair := none }
  | .error _ => 0

/-- One issue when the file has one of the extensions and no occurrence names a component. -/
def missingComponent (extensions components : List String) : Multiset Issue :=
  let letters := ((Path.ofString file).extension?).getD []
  let extension := ((Text.trim letters).dropWhile (· == '.')).map Text.asciiLower
  let value := Schema.suggestComponent file components
  let issue : Issue :=
    { severity := .warning, rule := "component-required", file := file, line := none,
      message := "Missing component:* dimension tag",
      suggestion := some s!"Add <!--TAG:component:{value}-->",
      fixable := true, repair := some (.insertComponent value) }
  if String.ofList extension ∈ extensions ∧ ∀ o ∈ occurrences,
      ¬ (o.kind = .dimension ∧ category o = "component" ∧ facet o ≠ "") then {issue}
  else 0

/-- One issue for each tag that occurs twice or more often, at the line of its second
occurrence. -/
def duplicateTags : Multiset Issue :=
  let same (tag : String) := occurrences.filter (·.tag == tag)
  let names := (occurrences.map Occurrence.tag).toFinset.filter fun tag => 2 ≤ (same tag).length
  names.val.map fun tag =>
    let count := (same tag).length
    { severity := .warning, rule := "no-duplicates", file := file,
      line := (same tag)[1]?.map Occurrence.startLine,
      message := s!"Tag '{tag}' appears {count} times", suggestion := none,
      fixable := false, repair := none }

/-- One issue for each dimension tag whose category knows values, but not the one it names. -/
def unknownValues (dimensions : Dimensions) : Multiset Issue :=
  let known (o : Occurrence) := dimensions.getD (category o) []
  ((occurrences : Multiset Occurrence).filter fun o =>
      o.kind = .dimension ∧ category o ≠ "" ∧ facet o ≠ "" ∧ known o ≠ [] ∧
        facet o ∉ known o).map fun o =>
    let category := category o
    let facet := facet o
    let values := ", ".intercalate (known o)
    { severity := .info, rule := "known-dimension-value", file := file, line := some o.startLine,
      message := s!"Unknown {category} value '{facet}'",
      suggestion := some s!"Known values: {values}", fixable := false, repair := none }

theorem dimension_eq (o : Occurrence) :
    o.dimension = if o.kind = .dimension ∧ category o ≠ "" ∧ facet o ≠ "" then
      some (category o, facet o) else none := by
  have named (part : List Char) : String.ofList part ≠ "" ↔ part.isEmpty = false := by
    rw [← String.ofList_nil, ne_eq, String.ofList_inj, List.isEmpty_eq_false_iff]
  unfold Occurrence.dimension
  cases o.kind with
  | primary => simp
  | dimension =>
      simp only [splitDimension, Text.splitAt?_eq, category, facet, named, true_and]
      by_cases colon : ':' ∈ o.tag.toList
      · rw [if_pos colon]
        generalize o.tag.toList.takeWhile (· ≠ ':') = front
        generalize (o.tag.toList.dropWhile (· ≠ ':')).drop 1 = back
        cases front <;> cases back <;> simp
      · have behind : o.tag.toList.dropWhile (· ≠ ':') = [] :=
          List.dropWhile_eq_nil_iff.mpr fun c member => by grind
        rw [if_neg colon, behind]
        simp

theorem extensionOf_eq (file : String) :
    Rule.extensionOf file = String.ofList (((Text.trim ((Path.ofString file).extension?.getD
      [])).dropWhile (· == '.')).map Text.asciiLower) := by
  rw [Rule.extensionOf]
  cases (Path.ofString file).extension? <;> rfl

end Due

/-! Each rule reports what is due. -/

theorem NamePattern.text_of_ofText {text : String} {pattern : NamePattern}
    (named : ofText text = .ok pattern) : pattern.text = text := by
  simp only [ofText, bind, Except.bind, pure, Except.pure] at named
  split at named
  next => cases named
  next =>
    cases named
    rfl

namespace Rule

variable (file : String) (occurrences : List Occurrence)

private theorem nodup_eraseDups : ∀ names : List String, names.eraseDups.Nodup
  | [] => List.nodup_nil
  | name :: names => by
      rw [List.eraseDups_cons, List.nodup_cons]
      exact ⟨by simp, nodup_eraseDups _⟩
termination_by names => names.length
decreasing_by exact Nat.lt_succ_of_le (List.length_filter_le _ _)

theorem length_primaryTags :
    (primaryTags occurrences).length =
      ((occurrences.filter Occurrence.isPrimary).map Occurrence.tag).toFinset.card := by
  rw [primaryTags, ← List.toFinset_card_of_nodup (nodup_eraseDups _)]
  congr 1
  ext name
  simp [List.mem_toFinset, List.mem_eraseDups]

theorem check_maxTagsPerFile (most : Nat) :
    ((maxTagsPerFile most).check file occurrences : Multiset Issue) =
      Due.tooManyTags file occurrences most := by
  have kinds : Occurrence.isPrimary = fun o => decide (o.kind = .primary) := rfl
  simp only [check, Due.tooManyTags, length_primaryTags, kinds, gt_iff_lt]
  split <;> rfl

theorem check_matchingClose :
    (matchingClose.check file occurrences : Multiset Issue) =
      Due.missingCloses file occurrences := by
  rw [check, Due.missingCloses, Multiset.filter_coe, Multiset.map_coe, ← List.filterMap_eq_map,
    List.filterMap_filter]
  congr 2
  funext o
  cases unclosed : o.closure <;> cases inserted : o.insertOffset <;>
    simp [missingClose, Issue.withRepair, Issue.ofFile, RuleKey.id, inserted]

theorem check_validIdentifier {text : String} {pattern : NamePattern}
    (named : NamePattern.ofText text = .ok pattern) :
    ((validIdentifier pattern).check file occurrences : Multiset Issue) =
      Due.badIdentifiers file occurrences text := by
  have refused (o : Occurrence) :
      decide (pattern.accepts o.tag = false) = !pattern.accepts o.tag := by
    cases pattern.accepts o.tag <;> rfl
  obtain rfl := NamePattern.text_of_ofText named
  simp only [check, Due.badIdentifiers, named, Multiset.filter_coe, Multiset.map_coe, refused]
  rfl

theorem check_componentRequired (extensions components : List String) :
    ((componentRequired extensions components).check file occurrences : Multiset Issue) =
      Due.missingComponent file occurrences extensions components := by
  have component (o : Occurrence) : isComponentTag o = true ↔
      o.kind = .dimension ∧ Due.category o = "component" ∧ Due.facet o ≠ "" := by
    rw [isComponentTag, Due.dimension_eq]
    split <;> grind
  simp only [check, Due.missingComponent, ← Due.extensionOf_eq, Bool.and_eq_true,
    List.contains_iff_mem, Bool.not_eq_true', List.any_eq_false, component]
  split <;> rfl

theorem check_knownDimensionValue (dimensions : Dimensions) :
    ((knownDimensionValue dimensions).check file occurrences : Multiset Issue) =
      Due.unknownValues file occurrences dimensions := by
  rw [check, Due.unknownValues, Multiset.filter_coe, Multiset.map_coe, ← List.filterMap_eq_map,
    List.filterMap_filter]
  congr 2
  funext o
  rw [Due.dimension_eq]
  by_cases tagged : o.kind = .dimension ∧ Due.category o ≠ "" ∧ Due.facet o ≠ ""
  · rw [if_pos tagged]
    simp only [Option.bind_eq_bind, Option.bind_some, Std.TreeMap.getD_eq_getD_getElem?]
    cases listed : dimensions[Due.category o]? with
    | none => simp
    | some known =>
        by_cases unknown : known ≠ [] ∧ Due.facet o ∉ known
        · simp [tagged, unknown, listed, unknownValue, Issue.ofFile, RuleKey.id]
        · have settled : known = [] ∨ Due.facet o ∈ known := by
            simpa [or_iff_not_imp_left] using unknown
          simp [unknown, settled]
  · have other (p : Prop) :
        ¬ (o.kind = .dimension ∧ Due.category o ≠ "" ∧ Due.facet o ≠ "" ∧ p) :=
      fun all => tagged ⟨all.1, all.2.1, all.2.2.1⟩
    simp [if_neg tagged, other]

private theorem repeated_eq :
    (((Repetition.ofOccurrences occurrences).toList.filter fun entry => entry.2.count > 1 :
        List (String × Repetition)) : Multiset (String × Repetition)) =
      ((occurrences.map Occurrence.tag).toFinset.filter fun tag =>
        2 ≤ (occurrences.filter (·.tag == tag)).length).val.map fun tag =>
          (tag, ⟨(occurrences.filter (·.tag == tag)).length,
            ((occurrences.filter (·.tag == tag))[1]?.map Occurrence.startLine).getD 0⟩) := by
  have keys : (Repetition.ofOccurrences occurrences).toList.Nodup :=
    Std.TreeMap.distinct_keys_toList.imp fun differ same => differ (by simp [same])
  refine (Multiset.Nodup.ext (Multiset.coe_nodup.mpr (keys.filter _)) ?_).mpr ?_
  · exact (Finset.nodup _).map fun a b same => (Prod.mk.inj same).1
  · rintro ⟨tag, found⟩
    have occurs (often : 2 ≤ (occurrences.filter (·.tag == tag)).length) :
        tag ∈ occurrences.map Occurrence.tag := by
      obtain ⟨o, member⟩ := List.exists_mem_of_length_pos (Nat.lt_of_lt_of_le Nat.two_pos often)
      rw [List.mem_filter, beq_iff_eq] at member
      exact List.mem_map.mpr ⟨o, member⟩
    rw [Multiset.mem_coe, List.mem_filter, Std.TreeMap.mem_toList_iff_getElem?_eq_some,
      decide_eq_true_eq, gt_iff_lt, Repetition.getElem?_repeated, Multiset.mem_map]
    constructor
    · rintro ⟨often, rfl⟩
      exact ⟨tag, Finset.mem_filter.mpr ⟨List.mem_toFinset.mpr (occurs often), often⟩, rfl⟩
    · rintro ⟨name, member, same⟩
      obtain ⟨rfl, rfl⟩ := Prod.mk.inj same
      exact ⟨(Finset.mem_filter.mp (Finset.mem_val.mp member)).2, rfl⟩

theorem check_noDuplicates :
    (noDuplicates.check file occurrences : Multiset Issue) =
      Due.duplicateTags file occurrences := by
  have issues := congrArg (Multiset.map fun entry : String × Repetition =>
    duplicateTag file entry.1 entry.2.count entry.2.secondLine) (repeated_eq occurrences)
  rw [Multiset.map_map, Multiset.map_coe, ← List.filterMap_eq_map, List.filterMap_filter] at issues
  have reported : noDuplicates.check file occurrences =
      (Repetition.ofOccurrences occurrences).toList.filterMap fun entry =>
        if entry.2.count > 1 then
          some (duplicateTag file entry.1 entry.2.count entry.2.secondLine)
        else none := rfl
  rw [reported]
  simp only [Function.comp_def, decide_eq_true_eq] at issues
  rw [issues, Due.duplicateTags]
  refine Multiset.map_congr rfl fun tag member => ?_
  obtain ⟨-, often⟩ := Finset.mem_filter.mp (Finset.mem_val.mp member)
  simp [duplicateTag, Issue.ofFile, RuleKey.id, List.getElem?_eq_getElem often]

end Rule

/-! The rules of a schema. -/

def Due.whenOn {α : Type} (setting : Setting α) (due : α → Multiset Issue) : Multiset Issue :=
  if setting.enabled then due setting.value else 0

def Schema.due (schema : Schema) (file : String) (occurrences : List Occurrence) :
    Multiset Issue :=
  Due.whenOn schema.rules.maxTagsPerFile (Due.tooManyTags file occurrences) +
  Due.whenOn schema.rules.matchingClose (fun _ => Due.missingCloses file occurrences) +
  Due.whenOn schema.rules.validIdentifier (Due.badIdentifiers file occurrences) +
  Due.whenOn schema.rules.componentRequired (fun extensions =>
    Due.missingComponent file occurrences extensions
      ((schema.dimensions["component"]?).getD [])) +
  Due.whenOn schema.rules.noDuplicates (fun _ => Due.duplicateTags file occurrences) +
  Due.whenOn schema.rules.knownDimensionValue (fun _ =>
    Due.unknownValues file occurrences schema.dimensions)

namespace Validator

variable {schema : Schema} {validator : Validator}

private theorem coe_ruleIf {α : Type} {file : String} {occurrences : List Occurrence}
    (setting : Setting α) (due : α → Multiset Issue) {rule : Rule}
    (reported : (rule.check file occurrences : Multiset Issue) = due setting.value) :
    ((ruleIf setting.enabled rule).flatMap (·.check file occurrences) : Multiset Issue) =
      Due.whenOn setting due := by
  rw [flatMap_ruleIf, Due.whenOn]
  cases setting.enabled with
  | false => rfl
  | true => exact reported

private theorem coe_identifier {file : String} {occurrences : List Occurrence}
    {identifier : List Rule}
    (read : identifierRules schema.rules.validIdentifier = .ok identifier) :
    (identifier.flatMap (·.check file occurrences) : Multiset Issue) =
      Due.whenOn schema.rules.validIdentifier (Due.badIdentifiers file occurrences) := by
  rw [Due.whenOn]
  rcases identifierRules_cases read with ⟨disabled, rfl⟩ | ⟨pattern, enabled, named, rfl⟩
  · rw [disabled]
    rfl
  · rw [enabled, if_pos rfl, List.flatMap_singleton]
    exact Rule.check_validIdentifier file occurrences named

/-- A validator reports what is due by the enabled rules, as often as it is due and nothing
else, by line, rule and message.  Of the occurrences in a text no unclosed one is passed
over. -/
theorem validate_due (built : ofSchema schema = .ok validator) (file : String)
    (occurrences : List Occurrence) :
    (validator.validate file occurrences : Multiset Issue) = schema.due file occurrences ∧
      (validator.validate file occurrences).Pairwise Issue.Precedes ∧
      ∀ content, ∀ o ∈ schema.scanOptions.scan file content,
        o.closure = .unclosed → o.insertOffset.isSome = true := by
  refine ⟨?_, ?_, fun content o member unclosed => ?_⟩
  · obtain ⟨identifier, read, rules⟩ := rules_of_ofSchema built
    rw [Multiset.coe_eq_coe.mpr (validate_perm validator file occurrences), rules]
    simp only [List.flatMap_append, ← Multiset.coe_add]
    rw [coe_identifier read,
      coe_ruleIf schema.rules.maxTagsPerFile _ (Rule.check_maxTagsPerFile file occurrences _),
      coe_ruleIf schema.rules.matchingClose (fun _ => _)
        (Rule.check_matchingClose file occurrences),
      coe_ruleIf schema.rules.componentRequired
        (fun extensions => Due.missingComponent file occurrences extensions _)
        (Rule.check_componentRequired file occurrences schema.rules.componentRequired.value
          ((schema.dimensions["component"]?).getD [])),
      coe_ruleIf schema.rules.noDuplicates (fun _ => _)
        (Rule.check_noDuplicates file occurrences),
      coe_ruleIf schema.rules.knownDimensionValue (fun _ => _)
        (Rule.check_knownDimensionValue file occurrences _)]
    rfl
  · exact (Issue.pairwise_sort _).imp Issue.before_iff.mp
  · have closing := ScanOptions.isSome_closing? member
    cases inserted : o.insertOffset <;> simp_all [Occurrence.closing?]

/-- A tag that is opened twice and closed once, in a file without a component tag. -/
theorem validate_due_twice :
    let opening : Occurrence := ⟨"intro", "src/a.py", 1, 5, "", .primary, .unclosed, 0, some 90⟩
    let again : Occurrence := ⟨"intro", "src/a.py", 6, 7, "", .primary, .closed, 90, none⟩
    let missing : List Issue := [
      { severity := .error, rule := "matching-close", file := "src/a.py", line := some 1,
        message := "Tag 'intro' has content but no closing tag",
        suggestion := some "Add <!--/TAG:intro--> after line 5",
        fixable := true, repair := some (.close "intro" 0 90) },
      { severity := .warning, rule := "component-required", file := "src/a.py", line := none,
        message := "Missing component:* dimension tag",
        suggestion := some "Add <!--TAG:component:src-->",
        fixable := true, repair := some (.insertComponent "src") },
      { severity := .warning, rule := "no-duplicates", file := "src/a.py", line := some 6,
        message := "Tag 'intro' appears 2 times", suggestion := none,
        fixable := false, repair := none }]
    ∃ validator, ofSchema .default = .ok validator ∧
      (validator.validate "src/a.py" [opening, again]).Perm missing ∧
      (validator.validate "src/a.py" [opening, again]).Pairwise Issue.Precedes := by
  intro opening again missing
  have accepts : Schema.defaultPattern.accepts "intro" = true := rfl
  have identifiers : Due.badIdentifiers "src/a.py" [opening, again]
      Schema.default.rules.validIdentifier.value = 0 := by
    rw [Due.badIdentifiers, Schema.ofText_defaultPattern]
    simp [opening, again, accepts]
  have due : Schema.default.due "src/a.py" [opening, again] = missing := by
    rw [Schema.due, show Due.whenOn Schema.default.rules.validIdentifier
      (Due.badIdentifiers "src/a.py" [opening, again]) = 0 from identifiers]
    simp only [opening, again, missing]
    decide +kernel
  obtain ⟨validator, built⟩ := exists_of_read Schema.read_empty
  obtain ⟨reported, ordered, -⟩ := validate_due built "src/a.py" [opening, again]
  exact ⟨validator, built, Multiset.coe_eq_coe.mp (reported.trans due), ordered⟩

end Validator

end TagAudit
