import TagAudit.Proofs.Marker.LineEnds
import TagAudit.Proofs.Rule.Independence

/-! What is reported about a file when its lines end with a carriage return and a line feed.
Rules look at the names, lines and endings of tags; byte offsets go into repairs alone. -/

namespace TagAudit

open Text

def Repair.placeless : Repair → Repair
  | .close tag _ _ => .close tag 0 0
  | .insertComponent value => .insertComponent value

def Issue.placeless (issue : Issue) : Issue :=
  { issue with repair := issue.repair.map Repair.placeless }

/-- What rules see of an occurrence. -/
def Occurrence.placeless (o : Occurrence) : Occurrence :=
  { o with content := "", openOffset := 0, insertOffset := o.insertOffset.map fun _ => 0 }

theorem Occurrence.Returned.placeless_eq {o o' : Occurrence} (returned : Returned o o') :
    o'.placeless = o.placeless := by
  have inserted : (o'.insertOffset.map fun _ => 0) = o.insertOffset.map fun _ => 0 := by
    have same := returned.insertOffset
    revert same
    cases o'.insertOffset <;> cases o.insertOffset <;> simp
  unfold Occurrence.placeless
  rw [inserted, returned.tag, returned.file, returned.startLine, returned.endLine, returned.kind,
    returned.closure]

theorem Occurrence.map_placeless_eq {occurrences occurrences' : List Occurrence}
    (returned : List.Forall₂ Returned occurrences occurrences') :
    occurrences'.map placeless = occurrences.map placeless := by
  induction returned with
  | nil => rfl
  | cons here _ induction => rw [List.map_cons, List.map_cons, here.placeless_eq, induction]

namespace Rule

theorem addAll_placeless (known : Std.TreeMap String Repetition) (occurrences : List Occurrence) :
    Repetition.addAll known (occurrences.map Occurrence.placeless) =
      Repetition.addAll known occurrences := by
  induction occurrences generalizing known with
  | nil => rfl
  | cons o later induction => exact induction _

theorem check_placeless (rule : Rule) (file : String) (occurrences : List Occurrence) :
    (rule.check file occurrences).map Issue.placeless =
      (rule.check file (occurrences.map Occurrence.placeless)).map Issue.placeless := by
  cases rule with
  | maxTagsPerFile most =>
      have tags : primaryTags (occurrences.map Occurrence.placeless) = primaryTags occurrences := by
        unfold primaryTags
        rw [List.filter_map, List.map_map]
        rfl
      simp only [check, tags]
  | matchingClose =>
      simp only [check, List.filterMap_map, List.map_filterMap]
      congr 1
      funext o
      rcases o with ⟨_, _, _, _, _, _, closure, _, insertOffset⟩
      cases closure <;> cases insertOffset <;> rfl
  | validIdentifier pattern =>
      simp only [check, List.filter_map, List.map_map]
      rfl
  | componentRequired extensions components =>
      have tagged : (occurrences.map Occurrence.placeless).any isComponentTag =
          occurrences.any isComponentTag := List.any_map
      simp only [check, tagged]
  | noDuplicates =>
      simp only [check, Repetition.ofOccurrences, addAll_placeless]
  | knownDimensionValue dimensions =>
      simp only [check, List.filterMap_map, List.map_filterMap]
      rfl

end Rule

theorem Issue.sort_placeless (issues : List Issue) :
    (sort issues).map placeless = sort (issues.map placeless) :=
  List.map_mergeSort fun _ _ _ _ => rfl

theorem Validator.validate_placeless (validator : Validator) (file : String)
    (occurrences : List Occurrence) :
    (validator.validate file occurrences).map Issue.placeless =
      (validator.validate file (occurrences.map Occurrence.placeless)).map Issue.placeless := by
  unfold validate
  rw [Issue.sort_placeless, Issue.sort_placeless, List.map_flatMap, List.map_flatMap]
  simp only [Rule.check_placeless _ file occurrences]

namespace Schema

/-- Line ends do not matter.  A text without carriage returns has the same tags when every line
feed gets one, and what is reported about it differs in the byte offsets of repairs only. -/
theorem crlf_reported_alike (schema : Schema) (file : String) {content : String}
    (plain : '\r' ∉ content.toList) :
    List.Forall₂ Occurrence.Returned (schema.scanOptions.scan file content)
        (schema.scanOptions.scan file (String.ofList (crlf content.toList))) ∧
      (schema.findings file (String.ofList (crlf content.toList))).map
          (·.map Issue.placeless) =
        (schema.findings file content).map (·.map Issue.placeless) := by
  have returned := schema.scanOptions.scan_crlf file plain
  have same := Occurrence.map_placeless_eq returned
  refine ⟨returned, ?_⟩
  unfold findings Checker.ofSchema
  cases Validator.ofSchema schema with
  | error e => simp only [Except.map]
  | ok validator =>
      simp only [Except.map, Checker.issues]
      rw [validator.validate_placeless, same, ← validator.validate_placeless]

theorem crlf_reported_alike_nested :
    let content := "<!--TAG:a-->\n  kept <!--TAG:b-->\n\n# <!--/TAG:a-->\n"
    '\r' ∉ content.toList ∧
      List.Forall₂ Occurrence.Returned (Schema.default.scanOptions.scan "a.py" content)
        (Schema.default.scanOptions.scan "a.py" (String.ofList (crlf content.toList))) ∧
      (Schema.default.findings "a.py" (String.ofList (crlf content.toList))).map
          (·.map Issue.placeless) =
        (Schema.default.findings "a.py" content).map (·.map Issue.placeless) := by
  intro content
  have plain : '\r' ∉ content.toList := by decide
  exact ⟨plain, Schema.default.crlf_reported_alike "a.py" plain⟩

end Schema

end TagAudit
