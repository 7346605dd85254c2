import TagAudit.Proofs.Repair.Rounds
import TagAudit.Proofs.Schema.Building

/-! What the rules find once a round of repairs is made.  A second round has nothing to do,
and the first adds no error, unless the line of the component tag brings a defect with it. -/

namespace TagAudit

open Text Marker

/-! Counting in scans that agree tag by tag. -/

private theorem countP_eq_of_forall₂ {α : Type} {Related : α → α → Prop} {p q : α → Bool}
    {before after : List α} (related : List.Forall₂ Related before after)
    (same : ∀ a b, Related a b → p b = q a) : after.countP p = before.countP q := by
  induction related with
  | nil => rfl
  | cons first _ induction => rw [List.countP_cons, List.countP_cons, induction, same _ _ first]

private theorem map_head_of_forall₂ {Related : Occurrence → Occurrence → Prop}
    {before after : List Occurrence} (related : List.Forall₂ Related before after)
    (same : ∀ o o', Related o o' → o'.head = o.head) :
    after.map Occurrence.head = before.map Occurrence.head := by
  induction related with
  | nil => rfl
  | cons first _ induction => rw [List.map_cons, List.map_cons, induction, same _ _ first]

namespace Occurrence

variable {written : List (Nat × String)} {o o' : Occurrence}

theorem Rescanned.head_eq (rescanned : Rescanned written o o') : o'.head = o.head := by
  rw [head, head, rescanned.tag, rescanned.kind]

theorem Rescanned.unclosed_eq (rescanned : Rescanned written o o') :
    (o'.closure == .unclosed) = (o.closure == .unclosed && !o.closedIn written) := by
  rw [rescanned.closure]
  cases o.closure <;> cases o.closedIn written <;> rfl

theorem Settles.head_eq (settled : Settles o o') : o'.head = o.head := by
  rw [head, head, settled.tag, settled.kind]

theorem Settles.closure_ne (settled : Settles o o') : o'.closure ≠ .unclosed := by
  intro unclosed
  have ends := settled.closure
  rw [unclosed] at ends
  generalize o.closure = before at ends
  cases ends

end Occurrence

namespace Rule

def isComponentHead (head : String × TagKind) : Bool :=
  match head.2 with
  | .dimension => (splitDimension head.1).any fun (category, _) => category == "component"
  | .primary => false

theorem isComponentTag_eq (o : Occurrence) : isComponentTag o = isComponentHead o.head := by
  rw [isComponentTag, Occurrence.dimension, isComponentHead, Occurrence.head]
  cases o.kind with
  | primary => rfl
  | dimension => cases splitDimension o.tag <;> rfl

theorem any_isComponentTag_of_perm {occurrences occurrences' : List Occurrence}
    (same : (occurrences.map Occurrence.head).Perm (occurrences'.map Occurrence.head)) :
    occurrences.any isComponentTag = occurrences'.any isComponentTag := by
  have every (l : List Occurrence) :
      l.any isComponentTag = (l.map Occurrence.head).any isComponentHead := by
    rw [List.any_map]
    exact congrArg l.any (funext isComponentTag_eq)
  rw [every, every, same.any_eq]

end Rule

namespace Schema

variable {schema : Schema} {file content : String}

theorem length_closings (schema : Schema) (file content : String) :
    (schema.closings (schema.scanOptions.scan file content)).length =
      if schema.rules.matchingClose.enabled then
        (schema.scanOptions.scan file content).countP (·.closure == .unclosed)
      else 0 := by
  rw [closings]
  split
  · rw [ScanOptions.length_closings]
  · rfl

def componentLine (schema : Schema) (file content : String) : List Occurrence :=
  schema.scanOptions.scan file (schema.componentEdit file content).text

theorem map_head_withComponent (schema : Schema) (file content : String) :
    ((schema.scanOptions.scan file (schema.withComponent file content)).map
      Occurrence.head).Perm ((schema.scanOptions.scan file content ++
        schema.componentLine file content).map Occurrence.head) := by
  obtain ⟨layout, whole⟩ := Layout.exists_layout content.toList
  obtain rfl : content = String.ofList layout.text := by rw [whole, String.ofList_toList]
  obtain ⟨above, below, whole, apart, offset, ⟨seam⟩⟩ := schema.exists_seam file layout
  obtain ⟨line, written⟩ := Layout.exists_layout
    (schema.componentEdit file (String.ofList layout.text)).text.toList
  obtain ⟨d, text, -, -, markers⟩ := seam.exists_draft apart
    (Repair.componentEdit_ends _ _ _) written
  have joined := schema.scanOptions.map_head_scan file d.layout
  have plain := schema.scanOptions.map_head_scan file layout
  have alone := schema.scanOptions.map_head_scan file line
  rw [written, String.ofList_toList] at alone
  rw [show d.layout.text = d.text from rfl, text, ← schema.toList_withComponent whole offset,
    String.ofList_toList, show d.layout.pieces.map Piece.marker = d.markers by
      simp [Draft.layout, Draft.markers], markers] at joined
  rw [joined, List.map_append, plain, componentLine, alone, seam.markers_eq,
    ScanOptions.heads_append, ScanOptions.heads_append, ScanOptions.heads_append,
    List.append_assoc]
  exact (List.perm_append_comm).append_left _

/-- One round of repairs is enough: the line of the component tag is read as one, and each
tag that it leaves unclosed is closed by a line of the same round. -/
def SettlesAtOnce (schema : Schema) (file content : String) : Prop :=
  schema.lacksComponent file (schema.scanOptions.scan file content) = true →
    (schema.componentLine file content).any Rule.isComponentTag = true ∧
      schema.leftOpen file content = []

namespace Round

variable {repaired : Repaired}

theorem map_head (round : schema.Round file content repaired) :
    ((schema.scanOptions.scan file repaired.content).map Occurrence.head).Perm
      ((schema.scanOptions.scan file content ++
        if schema.lacksComponent file (schema.scanOptions.scan file content) then
          schema.componentLine file content else []).map Occurrence.head) := by
  cases lacks : schema.lacksComponent file (schema.scanOptions.scan file content) with
  | true =>
      rw [if_pos rfl, map_head_of_forall₂ (round.beside lacks) fun _ _ rescanned =>
        rescanned.head_eq]
      exact schema.map_head_withComponent file content
  | false =>
      rw [if_neg (by decide), List.append_nil]
      have alone := round.alone lacks
      cases enabled : schema.rules.matchingClose.enabled with
      | true =>
          rw [if_pos enabled] at alone
          rw [map_head_of_forall₂ alone fun _ _ settled => settled.head_eq]
      | false =>
          rw [if_neg (by simp [enabled])] at alone
          rw [alone]

/-- What is said of names alone is said of the tags of the text and of the component line. -/
theorem countP_tag (round : schema.Round file content repaired) (p : String → Bool) :
    (schema.scanOptions.scan file repaired.content).countP (fun o => p o.tag) =
      (schema.scanOptions.scan file content).countP (fun o => p o.tag) +
        if schema.lacksComponent file (schema.scanOptions.scan file content) then
          (schema.componentLine file content).countP fun o => p o.tag
        else 0 := by
  have heads (l : List Occurrence) :
      l.countP (fun o => p o.tag) = (l.map Occurrence.head).countP fun head => p head.1 := by
    rw [List.countP_map]
    rfl
  rw [heads, round.map_head.countP_eq, ← heads, List.countP_append]
  split <;> rfl

theorem length_closings (round : schema.Round file content repaired) :
    (schema.closings (schema.scanOptions.scan file repaired.content)).length =
      if schema.lacksComponent file (schema.scanOptions.scan file content) then
        (schema.leftOpen file content).length
      else 0 := by
  rw [schema.length_closings]
  cases enabled : schema.rules.matchingClose.enabled with
  | false => simp [leftOpen, enabled]
  | true =>
      cases lacks : schema.lacksComponent file (schema.scanOptions.scan file content) with
      | true =>
          rw [if_pos rfl, if_pos rfl, leftOpen, if_pos enabled, ← List.countP_eq_length_filter]
          exact countP_eq_of_forall₂ (round.beside lacks) fun _ _ rescanned =>
            rescanned.unclosed_eq
      | false =>
          have alone := round.alone lacks
          rw [if_pos enabled] at alone
          rw [if_pos rfl, if_neg (by decide), countP_eq_of_forall₂ (q := fun _ => false) alone
            fun _ _ settled => by simpa using settled.closure_ne]
          simp

theorem lacksComponent (round : schema.Round file content repaired) :
    schema.lacksComponent file (schema.scanOptions.scan file repaired.content) =
      (schema.lacksComponent file (schema.scanOptions.scan file content) &&
        !(schema.componentLine file content).any Rule.isComponentTag) := by
  have found := Rule.any_isComponentTag_of_perm round.map_head
  cases lacks : schema.lacksComponent file (schema.scanOptions.scan file content) with
  | true =>
      rw [lacks, if_pos rfl, List.any_append] at found
      simp only [Schema.lacksComponent, Bool.and_eq_true, Bool.not_eq_true'] at lacks
      rw [Schema.lacksComponent]
      obtain ⟨enabled, asked, absent⟩ := lacks
      rw [found, enabled, asked, absent, Bool.false_or, Bool.true_and]
  | false =>
      rw [lacks, if_neg (by decide), List.append_nil] at found
      rw [Bool.false_and, ← lacks]
      simp only [Schema.lacksComponent, found]

end Round

end Schema

namespace Validator

variable {schema : Schema} {validator : Validator} {file : String}

theorem repairs_eq_nil_iff (occurrences : List Occurrence) :
    (validator.validate file occurrences).filterMap Issue.repair = [] ↔
      ∀ issue ∈ validator.validate file occurrences, issue.fixable = false := by
  rw [List.filterMap_eq_nil_iff]
  refine forall₂_congr fun issue member => ?_
  obtain ⟨rule, -, finding⟩ := finding_of_mem_validate member
  rw [finding.fixable_eq, Option.isSome_eq_false_iff, Option.isNone_iff_eq_none]

theorem repairs_eq_nil_iff_settlesAtOnce (built : ofSchema schema = .ok validator)
    {content : String} {repaired : Repaired} (round : schema.Round file content repaired) :
    (validator.validate file (schema.scanOptions.scan file repaired.content)).filterMap
        Issue.repair = [] ↔ schema.SettlesAtOnce file content := by
  have asked := repairs_validate built file (schema.scanOptions.scan file repaired.content)
  have none : (validator.validate file
        (schema.scanOptions.scan file repaired.content)).filterMap Issue.repair = [] ↔
      schema.closings (schema.scanOptions.scan file repaired.content) ++
        schema.components file (schema.scanOptions.scan file repaired.content) = [] :=
    ⟨fun empty => (empty ▸ asked).symm.eq_nil, fun empty => (empty ▸ asked).eq_nil⟩
  rw [none, List.append_eq_nil_iff, ← List.length_eq_zero_iff, round.length_closings,
    Schema.components, round.lacksComponent, Schema.SettlesAtOnce]
  cases schema.lacksComponent file (schema.scanOptions.scan file content) with
  | false => simp
  | true =>
      cases (schema.componentLine file content).any Rule.isComponentTag <;> simp

end Validator

namespace Checker

variable {schema : Schema} {checker : Checker}

/-- A second round of repairs finds nothing to do when the first settles the text, and only
then. -/
theorem repair_again {text : String} (read : Schema.read text = .ok schema) :
    ∃ checker, ofSchema schema = .ok checker ∧ ∀ file content, ∃ repaired,
      repair file content (checker.issues file content) = .ok repaired ∧
      ((∀ issue ∈ checker.issues file repaired.content, issue.fixable = false) ↔
        schema.SettlesAtOnce file content) ∧
      (repair file repaired.content (checker.issues file repaired.content) =
          .ok ⟨repaired.content, 0⟩ ↔ schema.SettlesAtOnce file content) := by
  obtain ⟨checker, built⟩ := exists_of_read read
  obtain ⟨validator, rules, rfl⟩ := ofSchema_cases built
  refine ⟨_, built, fun file content => ?_⟩
  obtain ⟨repaired, done, round⟩ := Validator.exists_round rules file content
  have settled := Validator.repairs_eq_nil_iff_settlesAtOnce rules round
  refine ⟨repaired, done, (Validator.repairs_eq_nil_iff _).symm.trans settled, ?_⟩
  rw [← settled]
  constructor
  · intro again
    obtain ⟨repaired', done', round'⟩ := Validator.exists_round rules file repaired.content
    obtain rfl : repaired' = ⟨repaired.content, 0⟩ := Except.ok.inj (done'.symm.trans again)
    have none := round'.applied
    have asked := (Validator.repairs_validate rules file
      (schema.scanOptions.scan file repaired.content)).length_eq
    rw [List.length_append, ← none] at asked
    exact List.length_eq_zero_iff.mp asked
  · exact fun none => repair_of_no_repairs none _ _

/-- Below a component tag of the built-in schema there is nothing to be repaired. -/
theorem repair_again_component :
    ∃ checker repaired, ofSchema .default = .ok checker ∧
      repair "src/a.py" "x = 1\n" (checker.issues "src/a.py" "x = 1\n") = .ok repaired ∧
      repair "src/a.py" repaired.content (checker.issues "src/a.py" repaired.content) =
        .ok ⟨repaired.content, 0⟩ := by
  obtain ⟨checker, built, rounds⟩ := repair_again Schema.read_empty
  obtain ⟨repaired, done, -, again⟩ := rounds "src/a.py" "x = 1\n"
  exact ⟨checker, repaired, built, done, again.mpr fun _ => ⟨rfl, rfl⟩⟩

/-- A schema without the dimension does not read the line as a component tag. -/
example : (Validator.closingSchema.componentLine "x.py" "").any Rule.isComponentTag = false := rfl

/-- A round of repairs takes away the errors of the unclosed tags.  The line of a component
tag may bring new ones: a name that the identifier rule refuses, and tags that it leaves
unclosed. -/
theorem errors_after_repair {text : String} (read : Schema.read text = .ok schema) :
    ∃ checker, ofSchema schema = .ok checker ∧ ∀ file content, ∃ repaired,
      repair file content (checker.issues file content) = .ok repaired ∧
      let errors (content : String) :=
        (checker.issues file content).countP (·.severity == .error)
      let closed := (schema.closings (schema.scanOptions.scan file content)).length
      let added :=
        if schema.lacksComponent file (schema.scanOptions.scan file content) then
          (schema.leftOpen file content).length +
            (schema.componentLine file content).countP fun o => schema.rejects o.tag
        else 0
      errors repaired.content + closed = errors content + added ∧
      (errors repaired.content ≤ errors content ↔ added ≤ closed) ∧
      (errors content = 0 → (errors repaired.content = 0 ↔ added = 0)) := by
  obtain ⟨checker, built⟩ := exists_of_read read
  obtain ⟨validator, rules, rfl⟩ := ofSchema_cases built
  refine ⟨_, built, fun file content => ?_⟩
  obtain ⟨repaired, done, round⟩ := Validator.exists_round rules file content
  refine ⟨repaired, done, ?_⟩
  intro errors closed added
  have before : errors content = closed +
      (schema.scanOptions.scan file content).countP fun o => schema.rejects o.tag :=
    Validator.errors_validate rules file _
  have after : errors repaired.content =
      (schema.closings (schema.scanOptions.scan file repaired.content)).length +
        (schema.scanOptions.scan file repaired.content).countP fun o => schema.rejects o.tag :=
    Validator.errors_validate rules file _
  rw [round.length_closings, round.countP_tag] at after
  have balance : errors repaired.content + closed = errors content + added := by
    simp only [added]
    cases lacks : schema.lacksComponent file (schema.scanOptions.scan file content) with
    | true =>
        rw [lacks, if_pos rfl, if_pos rfl] at after
        rw [if_pos rfl]
        omega
    | false =>
        rw [lacks, if_neg (by decide), if_neg (by decide)] at after
        rw [if_neg (by decide)]
        omega
  exact ⟨balance, by omega, by omega⟩

theorem errors_after_repair_component :
    ∃ checker repaired, ofSchema .default = .ok checker ∧
      repair "src/a.py" "x = 1\n" (checker.issues "src/a.py" "x = 1\n") = .ok repaired ∧
      (checker.issues "src/a.py" repaired.content).countP (·.severity == .error) ≤
        (checker.issues "src/a.py" "x = 1\n").countP (·.severity == .error) := by
  obtain ⟨checker, built, rounds⟩ := errors_after_repair Schema.read_empty
  obtain ⟨repaired, done, -, fewer, -⟩ := rounds "src/a.py" "x = 1\n"
  have left : Schema.default.leftOpen "src/a.py" "x = 1\n" = [] := rfl
  have line : Schema.default.componentLine "src/a.py" "x = 1\n" =
      [⟨"component:src", "src/a.py", 1, 1, "", .dimension, .marker, 2, none⟩] := rfl
  have accepted : Schema.default.rejects "component:src" = false := by
    rw [Schema.rejects, Schema.ofText_defaultPattern]
    rfl
  refine ⟨checker, repaired, built, done, fewer.mpr ?_⟩
  rw [left, line, List.countP_singleton, accepted]
  exact Nat.zero_le _

end Checker

end TagAudit
